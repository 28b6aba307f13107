import Stackline.Compile.Emission
import Stackline.Files.Dialogue

/-!
# Building files

Compiling scripts from files to files. Sources are compiled and written one
after the other; the first that fails ends the work, and the modules written
before it stay.
-/

namespace Stackline.Compile

open Stackline.Files
open Stackline.Terminal

/-- What came of a file: the error stream, and a module or what went wrong. -/
structure FileEmission where
  stderr : String
  result : Except Trouble String

/-- The emission of a file whose text is known. -/
def FileEmission.ofEmission (path : String) (emission : Emission) : FileEmission :=
  ⟨emission.stderr,
    emission.result.mapError fun failure =>
      (Trouble.of failure).within ("while emitting `" ++ path ++ "`")⟩

/-- Compile the script in a file to the text of a module. -/
def emitFile (ink : Ink) (options : Options) (path : String) : Dialogue FileEmission := do
  match ← Dialogue.readText path with
  | .error error =>
    let failure := Failure.diagnosed (.of (.unreadableFile path error.message))
    return ⟨"", .error (.of failure)⟩
  | .ok source => return .ofEmission path (emit ink options source)

/-- What came of a build: the modules written, the error stream, and what ended
the work early. -/
structure BuildReport where
  written : List String
  stderr : String
  trouble : Option Trouble
  deriving DecidableEq

/-- Compile sources in order and write each module. -/
def buildEach (ink : Ink) (options : Options) : List String → Dialogue BuildReport
  | [] => .done ⟨[], "", none⟩
  | source :: rest => do
    let emission ← emitFile ink options source
    match emission.result with
    | .error trouble => return ⟨[], emission.stderr, some trouble⟩
    | .ok text =>
      let path := options.outputFor source
      match ← Dialogue.writeText path text with
      | .error error =>
        let failure := Failure.diagnosed (.of (.unwritableFile path error.message))
        return ⟨[], emission.stderr, some (.of failure)⟩
      | .ok () =>
        let others ← buildEach ink options rest
        return ⟨path :: others.written, emission.stderr ++ others.stderr, others.trouble⟩

/-- Compile all sources that the options name, once the options are usable. -/
def build (ink : Ink) (options : Options) : Dialogue BuildReport :=
  match options.problem? with
  | some problem => .done ⟨[], "", some (.of (.other problem.message))⟩
  | none => buildEach ink options options.sources

end Stackline.Compile
