import Stackline.Compile.Options
import Stackline.Compile.Replay

/-!
# Emission

From the text of a script to the text of a module. Everything that is told on
the way goes to the error stream and is part of the result.
-/

namespace Stackline.Compile

open Stackline.Script
open Stackline.Terminal

/-- What came of an emission: the error stream, and a module or a failure. -/
structure Emission where
  stderr : String
  result : Except Failure String

/-- The trace of a statement. -/
def scriptTrace (ink : Ink) (statement : Statement) : String :=
  traceLine ink "[script]"
    (Text.padLeft 4 (toString statement.line) ++ ": " ++ statement.operation.description)

/-- The warning that a module is not checked. -/
def uncheckedWarning (ink : Ink) : String :=
  ink.boldColor .yellow "warning" ++
    ": built without the `verify` feature, skipping verification\n"

/-- Compile statements to a module. -/
def emitStatements (ink : Ink) (options : Options) (statements : List Statement) : Emission :=
  let listed :=
    if options.debug.script then String.join (statements.map (scriptTrace ink)) else ""
  let replayed := replay (options.tracing ink) statements .empty
  match replayed.failure with
  | some failure => ⟨listed ++ replayed.trace, .error failure⟩
  | none =>
    match replayed.builder.program.text? options.spelling with
    | none => ⟨listed ++ replayed.trace, .error (.stopped .oversizedMargin)⟩
    | some text =>
      let warning := if options.verify then uncheckedWarning ink else ""
      ⟨listed ++ replayed.trace ++ warning, .ok text⟩

/-- Compile the text of a script to the text of a module. -/
def emit (ink : Ink) (options : Options) (source : String) : Emission :=
  match parse source with
  | .error error => ⟨"", .error (.diagnosed (.ofParseError error))⟩
  | .ok statements => emitStatements ink options statements

end Stackline.Compile
