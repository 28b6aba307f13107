import Stackline.Code.Instruction
import Stackline.Text.Fields

/-!
# Programs

A finished module: its texts, the body of its one function, and the external
functions it calls. `Program.text` spells it, section by section.
-/

namespace Stackline.Code

/-- A module with one function. -/
structure Program where
  pool : Pool
  body : List (Line Instruction)
  externals : Externals
  deriving DecidableEq, Repr

/-- Texts with a line ending behind each. -/
def endLines (texts : List String) : String :=
  String.join (texts.map (· ++ "\n"))

namespace Program

/-- The target line, with an empty line behind it. -/
def targetSection (spelling : Spelling) : String :=
  spelling.triple.elim "" fun triple => "target triple = \"" ++ triple ++ "\"\n\n"

/-- The definitions of the texts, with an empty line behind them. -/
def poolSection (program : Program) : String :=
  if program.pool.texts.isEmpty then "" else endLines program.pool.definitions ++ "\n"

/-- The lines of the body, with the one that returns. -/
def bodyLines (spelling : Spelling) (program : Program) : List String :=
  program.body.map (Line.spell spelling.pointers) ++ ["ret i32 0"]

/-- The function. -/
def functionSection (spelling : Spelling) (program : Program) : String :=
  "define i32 @" ++ spelling.entry ++ "() \x7b\n" ++
    endLines ((program.bodyLines spelling).map (Text.spaces spelling.indent ++ ·)) ++ "\x7d\n"

/-- The declarations, with an empty line before them. -/
def externalSection (spelling : Spelling) (program : Program) : String :=
  if program.externals.required.isEmpty then ""
  else "\n" ++ endLines (program.externals.required.map (·.declaration spelling.pointers))

/-- The text of a module. -/
def text (spelling : Spelling) (program : Program) : String :=
  targetSection spelling ++ program.poolSection ++ program.functionSection spelling ++
    program.externalSection spelling

/-- No text is as long as this, so no margin is. -/
def lengthLimit : Nat :=
  Nat.pow 2 63

/-- The text of a module, unless its margin alone is longer than any text. -/
def text? (spelling : Spelling) (program : Program) : Option String :=
  if spelling.indent < lengthLimit then some (program.text spelling) else none

end Program

end Stackline.Code
