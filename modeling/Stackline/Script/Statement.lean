import Stackline.Number.Constant
import Stackline.Script.Operation
import Stackline.Script.Phrase

/-!
# Statements

Reading a script: its phrases become statements in order, and the first phrase
without a meaning is the error. An operation is read off the trees inside a phrase
(`Operation.ofTrees`). The escapes of quoted texts are undone, left to right, before
keyword and arguments are compared.
-/

namespace Stackline.Script

open Stackline.Grammar (Rule)
open Stackline.Number

/-- An operation and the line of its keyword. -/
structure Statement where
  line : Nat
  operation : Operation
  deriving DecidableEq, Repr

/-- Why a script is refused. -/
inductive Problem where
  | expected (expectation : Expectation)
  | unknownEscape (escaped : Char)
  | danglingEscape
  | missingOperation
  | unexpected (rule : Rule)
  | invalidReal (literal : String)
  | usage (keyword : Keyword)
  | unknownOperation (word : String)
  deriving DecidableEq, Repr

/-- The wording of a problem. -/
def Problem.message : Problem → String
  | .expected expectation => expectation.message
  | .unknownEscape escaped => "unknown escape `\\" ++ String.singleton escaped ++ "`"
  | .danglingEscape => "dangling `\\`"
  | .missingOperation => "expected an operation"
  | .unexpected rule => "unexpected " ++ rule.name
  | .invalidReal literal => "invalid real literal `" ++ literal ++ "`"
  | .usage keyword => "usage: " ++ keyword.name ++ " " ++ keyword.form
  | .unknownOperation word => "unknown operation `" ++ word ++ "`"

/-- A problem and its place. -/
structure ParseError where
  position : Position
  problem : Problem
  deriving DecidableEq, Repr

/-- The character that an escape stands for. -/
def unescapeChar? : Char → Option Char
  | 'n' => some '\n'
  | 't' => some '\t'
  | '"' => some '"'
  | '\\' => some '\\'
  | _ => none

/-- Undo the escapes of a quoted text. -/
def unescape : List Char → Except Problem (List Char)
  | [] => .ok []
  | ['\\'] => .error .danglingEscape
  | '\\' :: escaped :: rest =>
    match unescapeChar? escaped with
    | some c => (unescape rest).map (c :: ·)
    | none => .error (.unknownEscape escaped)
  | c :: rest => (unescape rest).map (c :: ·)

/-- Read an argument off its tree. -/
def Argument.ofTree : Grammar.Tree Rule → Except Problem Argument
  | .node .ident letters _ => .ok (.word (String.ofList letters))
  | .node .number literal _ => .ok (.number literal)
  | .node .string _ children =>
    let body := (children.head?.map Grammar.Tree.text).getD []
    (unescape body).map fun content => .text (String.ofList content)
  | .node rule _ _ => .error (.unexpected rule)

/-- The operation of a number that is pushed. A number with a point or an exponent is a
real one. -/
def Operation.pushed (literal : List Char) : Except Problem Operation :=
  if literal.any fun c => c = '.' || c = 'e' || c = 'E' then
    match Numeral.read? literal with
    | some numeral => .ok (.pushReal numeral.constantText)
    | none => .error (.invalidReal (String.ofList literal))
  else .ok (.pushInteger (String.ofList literal))

/-- The operation of a keyword with its arguments, if they are of its form. -/
def Keyword.operation : Keyword → List Argument → Except Problem Operation
  | .declare, [.word type, .word name] => .ok (.declare type name)
  | .read, [.word name] => .ok (.read name)
  | .write, [.text content] => .ok (.writeText content)
  | .write, [.word name] => .ok (.writeVariable name)
  | .print, [] => .ok .print
  | .push, [.number literal] => Operation.pushed literal
  | .load, [.word name] => .ok (.load name)
  | .store, [.word name] => .ok (.store name)
  | .arithmetic operator, [] => .ok (.arithmetic operator)
  | keyword, _ => .error (.usage keyword)

/-- Read an operation off the trees of its keyword and its arguments. -/
def Operation.ofTrees : List (Grammar.Tree Rule) → Except Problem Operation
  | [] => .error .missingOperation
  | first :: others => do
    let arguments ← others.mapM Argument.ofTree
    let word := String.ofList first.text
    match Keyword.named? word with
    | none => .error (.unknownOperation word)
    | some keyword => keyword.operation arguments

namespace Phrase

/-- The operation of a phrase. -/
def operation (phrase : Phrase) : Except Problem Operation :=
  Operation.ofTrees phrase.trees

/-- The statement of a phrase. A problem is reported at the keyword. -/
def statement (phrase : Phrase) : Except ParseError Statement :=
  match phrase.operation with
  | .ok operation => .ok ⟨phrase.position.line, operation⟩
  | .error problem => .error ⟨phrase.position, problem⟩

end Phrase

/-- Read a script from the characters of its source. -/
def parseChars (source : List Char) : Except ParseError (List Statement) :=
  match phrases source with
  | .error refusal => .error ⟨refusal.position, .expected refusal.expectation⟩
  | .ok found => found.mapM Phrase.statement

/-- Read a script. -/
def parse (source : String) : Except ParseError (List Statement) :=
  parseChars source.toList

end Stackline.Script
