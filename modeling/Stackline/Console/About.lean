import Stackline.Terminal.Ink
import Stackline.Text.Fields

/-!
# About the program

The texts by which the program introduces itself: version, usage and help.
-/

namespace Stackline.Console

open Stackline.Terminal

/-- The version. -/
def version : String :=
  "0.1.0"

/-- How modules are produced. -/
def backend : String :=
  "LLVM (textual)"

/-- The version on a line of its own. -/
def versionLine (ink : Ink) : String :=
  ink.color .green version ++ "\n"

/-- The answer to a request for the version. -/
def versionText (ink : Ink) : String :=
  ink.color .green "minill" ++ " " ++ ink.color .green version ++ "\n" ++
    "  backend: " ++ ink.color .grey backend ++ "\n"

/-- The line that shows how to call the program. -/
def usageText (ink : Ink) : String :=
  "\n" ++ ink.color .red "Usage:" ++ " minill [global-options] <command> [command-options]\n"

/-- A line of the help text: a form in its column, and what it does. -/
def helpLine (ink : Ink) (width : Nat) (form meaning : String) : String :=
  "  " ++ Text.padRight width (ink.color .blue form) ++ " " ++ meaning ++ "\n"

/-- The commands, with what they do. -/
def commandHelp : List (String × String) :=
  [("emit <file>", "Print the LLVM IR for a script"),
   ("build <file> [-o out]", "Write the LLVM IR to <stem>.ll or <out>"),
   ("--version", "Show version"),
   ("--help", "Show help")]

/-- The global options, with what they do. -/
def optionHelp : List (String × String) :=
  [("--debug-wave=<modes>", "Trace script,ir,stack (or all) to stderr"),
   ("--opaque-pointers", "Emit `ptr` instead of typed pointers"),
   ("--entry <name>", "Name of the emitted function (default main)"),
   ("--triple <triple>", "Add a target triple line"),
   ("--verify", "Check the output with LLVM (verify feature)")]

/-- The help text, apart from the usage line. -/
def helpText (ink : Ink) : String :=
  ink.color .green "minill: op-script to LLVM IR" ++ "\n" ++
    "\nCommands:\n" ++
    String.join (commandHelp.map fun (form, meaning) => helpLine ink 22 form meaning) ++
    "\nGlobal options (anywhere):\n" ++
    String.join (optionHelp.map fun (form, meaning) => helpLine ink 26 form meaning)

end Stackline.Console
