import Stackline.Builder.Trace
import Stackline.Compile.Failure

/-!
# Replay

A script is compiled by handing its statements to a builder, one after the
other. The first statement that fails ends the work and is named by its line;
what the builder did until then stays.
-/

namespace Stackline.Compile

open Stackline.Script

/-- The commands that an operation stands for. -/
def commands : Operation → List Command
  | .declare type name => [.declareNamed type name]
  | .read name => [.read name]
  | .writeText text => [.write text]
  | .writeVariable name => [.load name, .print]
  | .print => [.print]
  | .pushInteger text => [.pushInteger text]
  | .pushReal text => [.pushReal text]
  | .load name => [.load name]
  | .arithmetic operator => [.arithmetic operator]
  | .store name => [.store name]

/-- What came of a script: the trace, the failure that ended the work, and the
state it ended in. -/
structure Replay where
  trace : String
  failure : Option Failure
  builder : Builder
  deriving DecidableEq, Repr

/-- Hand statements to a builder, up to the first that fails. -/
def replay (tracing : Tracing) : List Statement → Builder → Replay
  | [], builder => ⟨"", none, builder⟩
  | statement :: rest, builder =>
    let first := Command.performAll tracing (commands statement.operation) builder
    match first.failure with
    | some error =>
      let note := "at script line " ++ toString statement.line
      ⟨first.trace, some ((Failure.ofBuildError error).withNote note), first.builder⟩
    | none =>
      let others := replay tracing rest first.builder
      { others with trace := first.trace ++ others.trace }

/-- Read a script and hand it to a builder. A script that cannot be read leaves
the builder as it was. -/
def replaySource (tracing : Tracing) (source : String) (builder : Builder) : Replay :=
  match parse source with
  | .error error => ⟨"", some (.diagnosed (.ofParseError error)), builder⟩
  | .ok statements => replay tracing statements builder

end Stackline.Compile
