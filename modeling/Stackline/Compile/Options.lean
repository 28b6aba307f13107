import Stackline.Builder.Trace
import Stackline.Files.Path
import Stackline.Text.Blank

/-!
# Compile options

What is to be compiled, where the result goes, how it is spelled, and what is
traced on the way.
-/

namespace Stackline.Compile

open Stackline.Code
open Stackline.Terminal

/-- What the user wants to see of the work. -/
structure DebugFlags where
  script : Bool := false
  lines : Bool := false
  stack : Bool := false
  deriving DecidableEq, Repr

namespace DebugFlags

/-- Switch on what a word asks for. Words without a meaning are passed over. -/
def enable (flags : DebugFlags) (word : String) : DebugFlags :=
  match word with
  | "script" => { flags with script := true }
  | "ir" => { flags with lines := true }
  | "stack" => { flags with stack := true }
  | "all" => ⟨true, true, true⟩
  | _ => flags

/-- Switch on what a list of words between commas asks for. -/
def apply (flags : DebugFlags) (modes : String) : DebugFlags :=
  ((Text.fields ',' modes.toList).map fun field => String.ofList (Text.trimChars field)).foldl
    enable flags

/-- The flags of the builder's trace. -/
def trace (flags : DebugFlags) : TraceFlags :=
  ⟨flags.lines, flags.stack⟩

end DebugFlags

/-- The options of a compilation. -/
structure Options where
  sources : List String := []
  output : Option String := none
  debug : DebugFlags := {}
  spelling : Spelling := {}
  verify : Bool := false
  deriving DecidableEq, Repr

/-- Why options cannot be used. -/
inductive OptionsProblem where
  | noSources
  | sharedOutput
  | emptyEntry
  deriving DecidableEq, Repr

/-- The wording of a problem with options. -/
def OptionsProblem.message : OptionsProblem → String
  | .noSources => "No source files specified"
  | .sharedOutput => "-o cannot be used with more than one source file"
  | .emptyEntry => "entry function name must not be empty"

namespace Options

/-- The first problem that options have. -/
def problem? (options : Options) : Option OptionsProblem :=
  if options.sources.isEmpty then some .noSources
  else if options.output.isSome ∧ 1 < options.sources.length then some .sharedOutput
  else if options.spelling.entry = "" then some .emptyEntry
  else none

/-- The path of the module that a source is compiled to. -/
def outputFor (options : Options) (source : String) : String :=
  options.output.getD (Files.withExtension source "ll")

/-- How the builder is traced. -/
def tracing (options : Options) (ink : Ink) : Tracing :=
  ⟨options.debug.trace, options.spelling.pointers, ink⟩

end Options

end Stackline.Compile
