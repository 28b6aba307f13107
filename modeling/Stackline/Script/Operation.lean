import Stackline.Code.Arithmetic
import Stackline.Text.Quoted

/-!
# Operations

What a line of a script asks for. A keyword names an operation and fixes the
arguments it takes.
-/

namespace Stackline.Script

open Stackline.Code

/-- An operation of a script. Constants carry the text under which they will
stand in the module. -/
inductive Operation where
  | declare (type name : String)
  | read (name : String)
  | writeText (text : String)
  | writeVariable (name : String)
  | print
  | pushInteger (text : String)
  | pushReal (text : String)
  | load (name : String)
  | arithmetic (operator : Arithmetic)
  | store (name : String)
  deriving DecidableEq, Repr

/-- The text of an operation in a trace. -/
def Operation.description : Operation → String
  | .declare type name =>
    "Declare \x7b ty: " ++ Text.quoted type ++ ", name: " ++ Text.quoted name ++ " \x7d"
  | .read name => "Read(" ++ Text.quoted name ++ ")"
  | .writeText text => "WriteText(" ++ Text.quoted text ++ ")"
  | .writeVariable name => "WriteVar(" ++ Text.quoted name ++ ")"
  | .print => "Print"
  | .pushInteger text => "PushInt(" ++ Text.quoted text ++ ")"
  | .pushReal text => "PushReal(" ++ Text.quoted text ++ ")"
  | .load name => "Load(" ++ Text.quoted name ++ ")"
  | .arithmetic .add => "Arith(Add)"
  | .arithmetic .subtract => "Arith(Subtract)"
  | .arithmetic .multiply => "Arith(Multiply)"
  | .arithmetic .divide => "Arith(Divide)"
  | .store name => "Store(" ++ Text.quoted name ++ ")"

/-- An argument of an operation. A number is held as it is written, and a quoted text
with its escapes undone. -/
inductive Argument where
  | word (letters : String)
  | number (literal : List Char)
  | text (content : String)
  deriving DecidableEq, Repr

/-- The first word of a statement. -/
inductive Keyword where
  | declare
  | read
  | write
  | print
  | push
  | load
  | store
  | arithmetic (operator : Arithmetic)
  deriving DecidableEq, Repr

namespace Keyword

/-- Every keyword. -/
def all : List Keyword :=
  [.declare, .read, .write, .print, .push, .load, .store, .arithmetic .add,
   .arithmetic .subtract, .arithmetic .multiply, .arithmetic .divide]

/-- The spelling of a keyword. -/
def name : Keyword → String
  | .declare => "declare"
  | .read => "read"
  | .write => "write"
  | .print => "print"
  | .push => "push"
  | .load => "load"
  | .store => "store"
  | .arithmetic .add => "add"
  | .arithmetic .subtract => "sub"
  | .arithmetic .multiply => "mul"
  | .arithmetic .divide => "div"

/-- The keyword of a spelling. -/
def named? (word : String) : Option Keyword :=
  all.find? (·.name = word)

/-- The arguments that a keyword takes, as shown to the user. -/
def form : Keyword → String
  | .declare => "<type> <name>"
  | .read => "<name>"
  | .write => "\"<text>\" | <name>"
  | .print => ""
  | .push => "<number>"
  | .load => "<name>"
  | .store => "<name>"
  | .arithmetic _ => ""

end Keyword

end Stackline.Script
