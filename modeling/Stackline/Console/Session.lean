import Stackline.Compile.Replay
import Stackline.Console.Call
import Stackline.Console.Line
import Stackline.Text.Blank

/-!
# The interactive session

A builder that is fed line by line. Lines that begin with a colon look at the
builder or change it as a whole; any other line is a script of its own, and what
it did before an error stays.
-/

namespace Stackline.Console

open Stackline.Code
open Stackline.Compile
open Stackline.Terminal

/-- What a line asks for. -/
inductive Inquiry where
  | nothing
  | quit
  | showProgram
  | showStack
  | reset
  | script (source : String)
  deriving DecidableEq, Repr

/-- Read a line, without the blanks at its ends. -/
def Inquiry.ofLine (line : List Char) : Inquiry :=
  match Text.trim (String.ofList line) with
  | "" => .nothing
  | ":quit" => .quit
  | ":q" => .quit
  | ":ir" => .showProgram
  | ":stack" => .showStack
  | ":reset" => .reset
  | source => .script source

/-- What a line brings about. A session that is over has an exit status. -/
structure Reply where
  stdout : String := ""
  stderr : String := ""
  exit : Option Nat := none
  builder : Builder
  deriving DecidableEq, Repr

/-- A session spells modules in the usual way and traces nothing. -/
def sessionTracing (ink : Ink) : Tracing :=
  ⟨{}, .typed, ink⟩

/-- The stack, its top first and with its depth. -/
def stackText (builder : Builder) : String :=
  String.join (builder.stack.mapIdx fun depth operand =>
    Text.padLeft 3 (toString depth) ++ ": " ++ operand.text ++ " (" ++ operand.kind.spelling ++
      ")\n")

/-- Answer what a line asks for. -/
def Inquiry.reply (ink : Ink) (builder : Builder) : Inquiry → Reply
  | .nothing => { builder := builder }
  | .quit => { exit := some 0, builder := builder }
  | .showProgram => { stdout := builder.program.text {}, builder := builder }
  | .showStack => { stdout := stackText builder, builder := builder }
  | .reset => { builder := .empty }
  | .script source =>
    let replayed := replaySource (sessionTracing ink) source builder
    match replayed.failure with
    | none => { builder := replayed.builder }
    | some (.diagnosed diagnostic) =>
      { stderr := diagnostic.render ink, builder := replayed.builder }
    | some failure =>
      { stderr := failure.summary ++ "\n", exit := some 101, builder := replayed.builder }

/-- Answer a line as it was typed. A correction that would cut a character ends the
session. -/
def respond (ink : Ink) (builder : Builder) (line : List Char) : Reply :=
  match corrected line with
  | none => { stderr := Fault.cutCharacter.message ++ "\n", exit := some 101, builder := builder }
  | some text => (Inquiry.ofLine text).reply ink builder

/-- The line that opens a session. -/
def banner : String :=
  "One operation per line. :ir shows the module, :stack the operand stack, " ++
    ":reset starts over, :quit exits.\n"

/-- The line that closes a session at the end of the input. -/
def farewell : String :=
  "CTRL-D\n"

/-- Answer lines in order, up to the end of the session. -/
def converse (ink : Ink) : List (List Char) → Builder → Transcript
  | [], _ => ⟨farewell, "", 0⟩
  | line :: rest, builder =>
    let reply := respond ink builder line
    match reply.exit with
    | some status => ⟨reply.stdout, reply.stderr, status⟩
    | none =>
      let others := converse ink rest reply.builder
      ⟨reply.stdout ++ others.stdout, reply.stderr ++ others.stderr, others.exit⟩

/-- A whole session from its input. -/
def session (ink : Ink) (input : String) : Transcript :=
  let transcript := converse ink (Text.lines input.toList) .empty
  { transcript with stdout := banner ++ transcript.stdout }

end Stackline.Console
