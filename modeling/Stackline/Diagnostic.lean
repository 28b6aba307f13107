import Stackline.Script.Statement
import Stackline.Terminal.Ink

/-!
# Diagnostics

What the user is told when something fails: a cause, advice, and how grave it
is. The wording of every cause is in `Cause.message`, and the layout of a whole
diagnostic in `Diagnostic.render`.
-/

namespace Stackline

open Stackline.Script
open Stackline.Terminal

/-- How grave a diagnostic is. -/
inductive Severity where
  | error
  | warning
  | note
  deriving DecidableEq, Repr

/-- The word for a severity. -/
def Severity.word : Severity → String
  | .error => "error"
  | .warning => "warning"
  | .note => "note"

/-- The colour of a severity. -/
def Severity.color : Severity → Color
  | .error => .red
  | .warning => .yellow
  | .note => .cyan

/-- What went wrong. -/
inductive Cause where
  | unknownType (name : String)
  | unknownVariable (name : String)
  | noMatchingOperator (operator left right : String)
  | script (position : Position) (text : String)
  | rejectedModule (text : String)
  | unreadableFile (path reason : String)
  | unwritableFile (path reason : String)
  deriving DecidableEq, Repr

namespace Cause

/-- The wording of a cause. -/
def message : Cause → String
  | .unknownType name => "unknown type `" ++ name ++ "`"
  | .unknownVariable name => "cannot find variable `" ++ name ++ "`"
  | .noMatchingOperator operator left right =>
    "no operator `" ++ operator ++ "` for operands `" ++ left ++ "` and `" ++ right ++ "`"
  | .script _ text => text
  | .rejectedModule text => text
  | .unreadableFile path reason => "failed to read `" ++ path ++ "`: " ++ reason
  | .unwritableFile path reason => "failed to write `" ++ path ++ "`: " ++ reason

/-- The advice that goes with a cause. -/
def help? : Cause → Option String
  | .unknownType _ =>
    some "expected one of: int, long, float, double (or i32, i64, f32, f64)"
  | .unknownVariable _ => some "make sure the variable is declared before use"
  | _ => none

/-- The remark that goes with a cause. -/
def note? : Cause → Option String
  | .rejectedModule _ => some "the emitted module was rejected by LLVM"
  | _ => none

/-- The place of a cause in a script. -/
def position? : Cause → Option Position
  | .script position _ => some position
  | _ => none

/-- The wording of a cause on one line, behind its place in a script. -/
def summary (cause : Cause) : String :=
  match cause.position? with
  | some position =>
    toString position.line ++ ":" ++ toString position.column ++ ": " ++ cause.message
  | none => cause.message

end Cause

/-- A cause with advice for the user. -/
structure Diagnostic where
  cause : Cause
  help : Option String
  note : Option String
  severity : Severity
  deriving DecidableEq, Repr

namespace Diagnostic

/-- The diagnostic of a cause, with its own advice. -/
def of (cause : Cause) : Diagnostic :=
  ⟨cause, cause.help?, cause.note?, .error⟩

/-- The diagnostic of a script that cannot be read. -/
def ofParseError (error : ParseError) : Diagnostic :=
  of (.script error.position error.problem.message)

/-- Replace the remark. -/
def withNote (diagnostic : Diagnostic) (note : String) : Diagnostic :=
  { diagnostic with note := some note }

/-- Replace the advice. -/
def withHelp (diagnostic : Diagnostic) (help : String) : Diagnostic :=
  { diagnostic with help := some help }

/-- Replace the severity. -/
def withSeverity (diagnostic : Diagnostic) (severity : Severity) : Diagnostic :=
  { diagnostic with severity := severity }

/-- Only an error stops the work. -/
def isFatal (diagnostic : Diagnostic) : Bool :=
  diagnostic.severity = .error

/-- One line of advice under a diagnostic. -/
def remark (ink : Ink) (color : Color) (label text : String) : String :=
  "   " ++ ink.boldColor .blue "=" ++ " " ++ ink.boldColor color label ++ ": " ++ text ++ "\n"

/-- The line that points into a script. -/
def pointer (ink : Ink) (position : Position) : String :=
  "  " ++ ink.boldColor .blue "-->" ++ " line " ++ toString position.line ++ ", column " ++
    toString position.column ++ "\n"

/-- A diagnostic as it is shown to the user. -/
def render (ink : Ink) (diagnostic : Diagnostic) : String :=
  ink.boldColor diagnostic.severity.color diagnostic.severity.word ++ ": " ++
    ink.bold diagnostic.cause.message ++ "\n" ++
    (diagnostic.cause.position?.map (pointer ink)).getD "" ++
    (diagnostic.note.map (remark ink .cyan "note")).getD "" ++
    (diagnostic.help.map (remark ink .green "help")).getD ""

end Diagnostic

end Stackline
