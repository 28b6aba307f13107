import Stackline.Builder.Command
import Stackline.Builder.State
import Stackline.Builder.Trace
import Stackline.Code.Arithmetic
import Stackline.Code.Conversion
import Stackline.Code.External
import Stackline.Code.Instruction
import Stackline.Code.Kind
import Stackline.Code.Listing
import Stackline.Code.Operand
import Stackline.Code.Pool
import Stackline.Code.Program
import Stackline.Code.Spelling
import Stackline.Compile.Build
import Stackline.Compile.Emission
import Stackline.Compile.Failure
import Stackline.Compile.Options
import Stackline.Compile.Replay
import Stackline.Console.About
import Stackline.Console.Arguments
import Stackline.Console.Call
import Stackline.Console.Line
import Stackline.Console.Session
import Stackline.Diagnostic
import Stackline.Files.Dialogue
import Stackline.Files.FileSystem
import Stackline.Files.Path
import Stackline.Grammar.Tree
import Stackline.Main
import Stackline.Number.Binary
import Stackline.Number.Constant
import Stackline.Number.Numeral
import Stackline.Proofs.Assembly.Characters
import Stackline.Proofs.Assembly.Pointers
import Stackline.Proofs.Assembly.Reading
import Stackline.Proofs.Assembly.Syntax
import Stackline.Proofs.Assembly.Typing
import Stackline.Proofs.Assembly.Words
import Stackline.Proofs.Builder.Atomicity
import Stackline.Proofs.Builder.Closure
import Stackline.Proofs.Builder.Expression
import Stackline.Proofs.Builder.Linearity
import Stackline.Proofs.Builder.Run
import Stackline.Proofs.Builder.Step
import Stackline.Proofs.Builder.Typing
import Stackline.Proofs.Code.Definition
import Stackline.Proofs.Code.Directive
import Stackline.Proofs.Code.Interning
import Stackline.Proofs.Code.Pool
import Stackline.Proofs.Compile.Acceptance
import Stackline.Proofs.Compile.Build
import Stackline.Proofs.Compile.Formats
import Stackline.Proofs.Compile.Replay
import Stackline.Proofs.Compile.Spelling
import Stackline.Proofs.Compile.Tracing
import Stackline.Proofs.Console.Arguments
import Stackline.Proofs.Console.Refusal
import Stackline.Proofs.Console.Session
import Stackline.Proofs.Except
import Stackline.Proofs.Files.FileSystem
import Stackline.Proofs.Grammar.Append
import Stackline.Proofs.Grammar.Expression
import Stackline.Proofs.Grammar.Longest
import Stackline.Proofs.Grammar.Munch
import Stackline.Proofs.Grammar.Script
import Stackline.Proofs.Grammar.Shape
import Stackline.Proofs.Grammar.Tokens
import Stackline.Proofs.Number.Acceptor
import Stackline.Proofs.Number.Decimal
import Stackline.Proofs.Number.Literal
import Stackline.Proofs.Number.Precision
import Stackline.Proofs.Number.Rounding
import Stackline.Proofs.Program.Layout
import Stackline.Proofs.Program.Names
import Stackline.Proofs.Program.Reading
import Stackline.Proofs.Script.Constant
import Stackline.Proofs.Script.Diagnosis
import Stackline.Proofs.Script.Fault
import Stackline.Proofs.Script.Lines
import Stackline.Proofs.Script.Passing
import Stackline.Proofs.Script.Printing
import Stackline.Proofs.Script.Pushed
import Stackline.Proofs.Script.Token
import Stackline.Proofs.Script.Tree
import Stackline.Proofs.Script.Trimming
import Stackline.Proofs.Semantics.Machine
import Stackline.Proofs.Semantics.Script
import Stackline.Proofs.Semantics.Simulation
import Stackline.Proofs.Terminal.Color
import Stackline.Proofs.Text.Bytes
import Stackline.Proofs.Text.Lines
import Stackline.Script.Lexeme
import Stackline.Script.Operation
import Stackline.Script.Phrase
import Stackline.Script.Position
import Stackline.Script.Statement
import Stackline.Terminal.Color
import Stackline.Terminal.Ink
import Stackline.Text.Blank
import Stackline.Text.Bytes
import Stackline.Text.Cluster
import Stackline.Text.Extending
import Stackline.Text.Fields
import Stackline.Text.Hex
import Stackline.Text.Joint
import Stackline.Text.Quoted
import Stackline.Text.Unprintable
