import Stackline.Compile.Build
import Stackline.Console.About
import Stackline.Console.Arguments

/-!
# Calls

One call of the program from its arguments to its streams and exit status. Files
are reached through a dialogue, so the whole call is a value.
-/

namespace Stackline.Console

open Stackline.Compile
open Stackline.Files
open Stackline.Terminal

/-- What a call leaves behind. -/
structure Transcript where
  stdout : String := ""
  stderr : String := ""
  exit : Nat := 0
  deriving DecidableEq, Repr

/-- Why a call fails. -/
inductive CallError where
  | usage (message : String)
  | failed (trouble : Trouble)
  | system (message : String)
  deriving DecidableEq, Repr

namespace CallError

/-- The wording of an error on one line. -/
def message : CallError → String
  | .usage message => "Error: " ++ message
  | .failed trouble => "Error: " ++ trouble.chain
  | .system message => "IO Error: " ++ message

/-- What is told about an error. A diagnostic is shown in full behind its chain,
and a usage error is followed by the usage line. -/
def report (ink : Ink) (error : CallError) : String :=
  match error with
  | .failed ⟨contexts, .diagnosed diagnostic⟩ =>
    Trouble.chain ⟨contexts, .diagnosed diagnostic⟩ ++ "\n" ++ diagnostic.render ink
  | .usage message => CallError.message (.usage message) ++ "\n" ++ usageText ink
  | error => error.message ++ "\n"

/-- The exit status after an error. A fault has a status of its own. -/
def exit : CallError → Nat
  | .failed ⟨_, .stopped _⟩ => 101
  | _ => 1

end CallError

/-- The transcript of a call that fails, behind what it told before. -/
def Transcript.ofError (ink : Ink) (stdout stderr : String) (error : CallError) : Transcript :=
  ⟨stdout, stderr ++ error.report ink, error.exit⟩

/-- The line that names a module that was written. -/
def wroteLine (ink : Ink) (path : String) : String :=
  ink.boldColor .green "wrote" ++ " " ++ path ++ "\n"

/-- Print the module of a file. -/
def answerEmit (ink : Ink) (options : Options) (file : String) : Dialogue Transcript :=
  match options.problem? with
  | some problem => .done (.ofError ink "" "" (.usage (UsageError.badOptions problem).message))
  | none => do
    let emission ← emitFile ink options file
    match emission.result with
    | .error trouble => return .ofError ink "" emission.stderr (.failed trouble)
    | .ok text => return ⟨text, emission.stderr, 0⟩

/-- Build a file. -/
def answerBuild (ink : Ink) (options : Options) : Dialogue Transcript := do
  let report ← build ink options
  match report.trouble with
  | some trouble => return .ofError ink "" report.stderr (.failed trouble)
  | none => return ⟨String.join (report.written.map (wroteLine ink)), report.stderr, 0⟩

/-- Answer a request. -/
def answer (ink : Ink) (globals : Globals) : Request → Dialogue Transcript
  | .help => .done ⟨helpText ink, usageText ink, 0⟩
  | .version => .done ⟨versionText ink, "", 0⟩
  | .emit file => answerEmit ink (globals.options file none) file
  | .build file output => answerBuild ink (globals.options file output)

/-- One call of the program. -/
def call (ink : Ink) (arguments : List String) : Dialogue Transcript :=
  match parseArguments arguments with
  | .error error => .done (.ofError ink "" "" (.usage error.message))
  | .ok (globals, request) => answer ink globals request

end Stackline.Console
