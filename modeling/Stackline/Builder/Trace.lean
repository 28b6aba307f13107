import Stackline.Builder.Command
import Stackline.Terminal.Ink

/-!
# Traces

An account of what commands do to a builder: the lines they append, and the
stack they leave behind. A trace is read off the states before and after a
command, so asking for one cannot change what is built.
-/

namespace Stackline

open Stackline.Code
open Stackline.Terminal

/-- What is traced. -/
structure TraceFlags where
  lines : Bool := false
  stack : Bool := false
  deriving DecidableEq, Repr

/-- What is traced, and how it is written. -/
structure Tracing where
  flags : TraceFlags
  pointers : Pointers
  ink : Ink
  deriving DecidableEq, Repr

/-- A line of a trace under its mark. -/
def traceLine (ink : Ink) (mark text : String) : String :=
  ink.color .grey mark ++ " " ++ text ++ "\n"

/-- The trace of a line of code. -/
def codeTrace (ink : Ink) (text : String) : String :=
  traceLine ink "[ir]" text

namespace Tracing

/-- The trace of the lines that were appended between two states. -/
def appended (tracing : Tracing) (before after : Builder) : String :=
  if tracing.flags.lines then
    String.join ((after.listing.since before.listing).map fun line =>
      codeTrace tracing.ink (line.spell tracing.pointers))
  else ""

/-- An operand of a traced stack. -/
def operandText (operand : Operand) : String :=
  operand.text ++ ":" ++ operand.kind.spelling

/-- The trace of a stack, its bottom first. -/
def stack (tracing : Tracing) (label : String) (builder : Builder) : String :=
  if tracing.flags.stack then
    traceLine tracing.ink "[stack]" (Text.padRight 12 label ++ " [" ++
      ", ".intercalate (builder.stack.reverse.map operandText) ++ "]")
  else ""

end Tracing

/-- What came of a command or of several: the trace, the failure that ended the
work, and the state it ended in. -/
structure Performance where
  trace : String
  failure : Option BuildError
  builder : Builder
  deriving DecidableEq, Repr

namespace Command

/-- The trace of a command that succeeded. The stack is shown if the command
found its operands. -/
def trace (tracing : Tracing) (command : Command) (before after : Builder) : String :=
  tracing.appended before after ++
    if command.arity ≤ before.stack.length then tracing.stack command.label after else ""

/-- Carry a command out and trace it. -/
def perform (tracing : Tracing) (command : Command) (builder : Builder) : Performance :=
  match command.run builder with
  | .ok _ after => ⟨command.trace tracing builder after, none, after⟩
  | .error failure after => ⟨tracing.appended builder after, some failure, after⟩

/-- Carry commands out in order, up to the first that fails. -/
def performAll (tracing : Tracing) : List Command → Builder → Performance
  | [], builder => ⟨"", none, builder⟩
  | command :: rest, builder =>
    let first := command.perform tracing builder
    match first.failure with
    | some _ => first
    | none =>
      let others := performAll tracing rest first.builder
      { others with trace := first.trace ++ others.trace }

end Command

end Stackline
