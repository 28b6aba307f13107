import Stackline.Console.Session

/-!
# The executable

The outer layer: arguments, environment, disk and streams. Everything that is
decided is decided by `Console.call` and `Console.respond`.
-/

namespace Stackline

open Stackline.Console
open Stackline.Files
open Stackline.Terminal

/-- The file error that a system call reports. -/
def fileErrorOf : IO.Error → FileError
  | .noFileOrDirectory .. => .notFound
  | .inappropriateType _ code _ => if code = 21 ∨ code = -21 then .isDirectory else .notDirectory
  | .permissionDenied _ code details =>
    if code = 13 ∨ code = -13 then .permissionDenied else .other details
  | .invalidArgument _ code details =>
    if code = 36 ∨ code = -36 then .nameTooLong else .other details
  | error => .other (toString error)

/-- Catch the file error of an action. -/
def catchFileError {α : Type} (action : IO α) : IO (Except FileError α) := do
  try
    return .ok (← action)
  catch error =>
    return .error (fileErrorOf error)

/-- Hold a dialogue with the disk. -/
def holdWithDisk {α : Type} : Dialogue α → IO α
  | .done result => pure result
  | .read path next => do holdWithDisk (next (← catchFileError (IO.FS.readBinFile path)))
  | .write path content next => do
    holdWithDisk (next (← catchFileError (IO.FS.writeBinFile path content)))

/-- Colours are written unless the environment asks for none. -/
def environmentInk : IO Ink := do
  match ← IO.getEnv "NO_COLOR" with
  | some _ => return .plain
  | none => return .ansi

/-- Write both streams. -/
def flushStreams (stdout stderr : String) : IO Unit := do
  IO.eprint stderr
  IO.print stdout
  (← IO.getStdout).flush

/-- Run a session on the standard streams, from some state of the builder. -/
partial def interact (ink : Ink) (builder : Builder) : IO UInt32 := do
  match Text.lines (← (← IO.getStdin).getLine).toList with
  | [] =>
    flushStreams farewell ""
    return 0
  | line :: _ =>
    let reply := respond ink builder line
    flushStreams reply.stdout reply.stderr
    match reply.exit with
    | some status => return status.toUInt32
    | none => interact ink reply.builder

/-- Open a session on the standard streams. -/
def openSession : IO UInt32 := do
  flushStreams banner ""
  interact (← environmentInk) .empty

/-- Answer a command line. -/
def answer (arguments : List String) : IO UInt32 := do
  let transcript ← holdWithDisk (call (← environmentInk) arguments)
  flushStreams transcript.stdout transcript.stderr
  return transcript.exit.toUInt32

/-- The name that the program is installed under. -/
def programName : IO String := do
  return (components (toString (← IO.appPath))).getLastD ""

end Stackline

/-- One call of the program. Under the name `repl` it opens a session, and under any other
name it answers its arguments. -/
def main (arguments : List String) : IO UInt32 := do
  if (← Stackline.programName) = "repl" then Stackline.openSession
  else Stackline.answer arguments
