import Stackline.Compile.Options

/-!
# Arguments

The command line as data. Global options may stand anywhere before a double dash
and are collected first; what they leave is a request with its own arguments.
-/

namespace Stackline.Console

open Stackline.Code
open Stackline.Compile

/-- A global option that takes a value. -/
inductive ValueOption where
  | debug
  | entry
  | triple
  deriving DecidableEq, Repr

namespace ValueOption

/-- Every option that takes a value. -/
def all : List ValueOption :=
  [.debug, .entry, .triple]

/-- The spelling of an option. -/
def flag : ValueOption → String
  | .debug => "--debug-wave"
  | .entry => "--entry"
  | .triple => "--triple"

/-- An option with a placeholder for its value. -/
def form : ValueOption → String
  | .debug => "--debug-wave <script|ir|stack|all>"
  | .entry => "--entry <name>"
  | .triple => "--triple <target-triple>"

/-- What follows a leading text. -/
def rest? (leading text : List Char) : Option (List Char) :=
  if leading.isPrefixOf text then some (text.drop leading.length) else none

/-- An option and its value in one argument, with an equals sign between them. -/
def joined? (argument : String) : Option (ValueOption × String) :=
  all.findSome? fun option =>
    (rest? (option.flag ++ "=").toList argument.toList).map fun value =>
      (option, String.ofList value)

/-- The option of a spelling. -/
def named? (argument : String) : Option ValueOption :=
  all.find? (·.flag = argument)

end ValueOption

/-- A global option without a value. -/
inductive Switch where
  | untypedPointers
  | verify
  deriving DecidableEq, Repr

namespace Switch

/-- Every switch. -/
def all : List Switch :=
  [.untypedPointers, .verify]

/-- The spelling of a switch. -/
def flag : Switch → String
  | .untypedPointers => "--opaque-pointers"
  | .verify => "--verify"

/-- The switch of a spelling. -/
def named? (argument : String) : Option Switch :=
  all.find? (·.flag = argument)

end Switch

/-- What the global options ask for. -/
structure Globals where
  debug : DebugFlags := {}
  untypedPointers : Bool := false
  entry : Option String := none
  triple : Option String := none
  verify : Bool := false
  deriving DecidableEq, Repr

namespace Globals

/-- Take an option with its value. Debug words add up, other values replace
earlier ones. -/
def setValue (globals : Globals) (option : ValueOption) (value : String) : Globals :=
  match option with
  | .debug => { globals with debug := globals.debug.apply value }
  | .entry => { globals with entry := some value }
  | .triple => { globals with triple := some value }

/-- Take a switch. -/
def setSwitch (globals : Globals) (switch : Switch) : Globals :=
  match switch with
  | .untypedPointers => { globals with untypedPointers := true }
  | .verify => { globals with verify := true }

/-- The options of a compilation of one file. -/
def options (globals : Globals) (source : String) (output : Option String) : Options where
  sources := [source]
  output := output
  debug := globals.debug
  spelling :=
    { entry := globals.entry.getD "main"
      pointers := if globals.untypedPointers then .untyped else .typed
      triple := globals.triple }
  verify := globals.verify

end Globals

/-- Why a command line is refused. -/
inductive UsageError where
  | notEnoughArguments
  | missingValue (form : String)
  | unknownCommand (word : String)
  | emitUsage
  | buildUsage
  | extraArgument (argument : String)
  | unknownBuildOption (argument : String)
  | badOptions (problem : OptionsProblem)
  deriving DecidableEq, Repr

/-- The wording of a usage error. -/
def UsageError.message : UsageError → String
  | .notEnoughArguments => "not enough arguments"
  | .missingValue form => "missing value: " ++ form
  | .unknownCommand word => "unknown command: " ++ word
  | .emitUsage => "usage: minill emit <file>"
  | .buildUsage => "usage: minill build <file> [-o <out.ll>]"
  | .extraArgument argument => "unexpected extra argument: " ++ argument
  | .unknownBuildOption argument => "unknown option for build: " ++ argument
  | .badOptions problem => problem.message

/-- What a word of a command line is to the global options. -/
inductive Role where
  | separator
  | joined (option : ValueOption) (value : String)
  | bare (option : ValueOption)
  | switch (chosen : Switch)
  | plain
  deriving DecidableEq, Repr

/-- The role of a word. -/
def Role.of (word : String) : Role :=
  if word = "--" then .separator
  else
    match ValueOption.joined? word with
    | some (option, value) => .joined option value
    | none =>
      match ValueOption.named? word with
      | some option => .bare option
      | none =>
        match Switch.named? word with
        | some chosen => .switch chosen
        | none => .plain

/-- Collect the global options, and the words that are none. A bare option takes
the next word for its value, whatever it is; behind a separator nothing is an
option any more. -/
def collect (globals : Globals) : List String → Except UsageError (Globals × List String)
  | [] => .ok (globals, [])
  | word :: rest =>
    match Role.of word, rest with
    | .separator, rest => .ok (globals, rest)
    | .joined option value, rest => collect (globals.setValue option value) rest
    | .bare option, [] => .error (.missingValue option.form)
    | .bare option, value :: rest => collect (globals.setValue option value) rest
    | .switch chosen, rest => collect (globals.setSwitch chosen) rest
    | .plain, rest =>
      (collect globals rest).map fun (globals, others) => (globals, word :: others)

/-- What the user asks for. -/
inductive Request where
  | emit (file : String)
  | build (file : String) (output : Option String)
  | help
  | version
  deriving DecidableEq, Repr

namespace Request

/-- The arguments of a build, where `file` and `output` are those found so far. -/
def parseBuild (file output : Option String) : List String → Except UsageError Request
  | [] =>
    match file with
    | some file => .ok (.build file output)
    | none => .error .buildUsage
  | argument :: rest =>
    if argument = "-o" ∨ argument = "--output" then
      match rest with
      | [] => .error (.missingValue "-o <file>")
      | path :: rest => parseBuild file (some path) rest
    else if argument.toList.head? = some '-' then .error (.unknownBuildOption argument)
    else if file.isSome then .error (.extraArgument argument)
    else parseBuild (some argument) output rest

/-- The arguments of an emission. -/
def parseEmit : List String → Except UsageError Request
  | [] => .error .emitUsage
  | [file] => .ok (.emit file)
  | _ :: extra :: _ => .error (.extraArgument extra)

/-- Read a request. -/
def parse : List String → Except UsageError Request
  | [] => .error .notEnoughArguments
  | word :: arguments =>
    if word ∈ ["--help", "-h", "help"] then .ok .help
    else if word ∈ ["--version", "-V", "version"] then .ok .version
    else if word = "emit" then parseEmit arguments
    else if word = "build" then parseBuild none none arguments
    else .error (.unknownCommand word)

end Request

/-- Read a command line. -/
def parseArguments (arguments : List String) : Except UsageError (Globals × Request) :=
  match collect {} arguments with
  | .error error => .error error
  | .ok (globals, rest) => (Request.parse rest).map fun request => (globals, request)

end Stackline.Console
