import Stackline.Builder.State

/-!
# Commands

The steps from which every program is built. A command takes its operands from
the stack; one that finds too few of them is without effect, except that printing
still calls for its external function.
-/

namespace Stackline

open Stackline.Code

namespace Builder

/-- Carry an operand to a kind. An operand of that kind already is left alone. -/
def convert (operand : Operand) (target : Kind) : BuildM Operand := do
  if operand.kind = target then
    return operand
  else
    match Conversion.between? operand.kind target with
    | none => throw (.noConversion operand.kind target)
    | some conversion =>
      let id ← addValue (.convert conversion operand target)
      return .register id target

/-- The kind that the operands of an operator are carried to: the wider of one
family, and the floating one of two families. -/
def commonKind (left right : Kind) : Kind :=
  match left.family, right.family with
  | .integer, .floating => right
  | .floating, .integer => left
  | _, _ => if left.bytes < right.bytes then right else left

/-- Carry two operands to one kind. At most one of them is converted. -/
def reconcile (operator : Arithmetic) (first second : Operand) : BuildM (Operand × Operand) := do
  let common := commonKind first.kind second.kind
  let left ← convert first common
  let right ← convert second common
  if left.kind = right.kind then
    return (left, right)
  else
    throw (.noMatchingOperator operator first.kind second.kind)

/-- Call an external function with a format and at most one argument. -/
def call (external : External) (format : String) (argument : Option CallArgument) :
    BuildM Unit := do
  let pooled ← intern format
  let _ ← addValue (.call external pooled argument)

/-- Set storage aside for a variable. A name that is declared again stands for
its new storage. -/
def declare (kind : Kind) (name : String) : BuildM Unit := do
  let address ← addValue (.allocate kind)
  bindName name ⟨address, kind⟩

/-- Set storage aside for a variable whose kind is given by name. -/
def declareNamed (type name : String) : BuildM Unit :=
  match Kind.named? type with
  | some kind => declare kind name
  | none => throw (.unknownType type)

/-- Put the value of a variable on the stack. -/
def load (name : String) : BuildM Unit := do
  let slot ← find name
  let id ← addValue (.load slot.kind slot.address)
  push (.register id slot.kind)

/-- Move the top of the stack into a variable, carried to the kind of the
variable. -/
def store (name : String) : BuildM Unit := do
  let slot ← find name
  match ← pop? with
  | none => return
  | some operand =>
    let value ← convert operand slot.kind
    addEffect (.store slot.kind value slot.address)

/-- Read a value from the input into a variable. -/
def read (name : String) : BuildM Unit := do
  let slot ← find name
  require .scanf
  call .scanf slot.kind.pattern (some (.storage slot.kind slot.address))

/-- Write a text to the output. -/
def write (text : String) : BuildM Unit := do
  require .printf
  call .printf text none

/-- Write the top of the stack to the output. A floating value is carried to the
widest kind first, as variadic calls demand. -/
def print : BuildM Unit := do
  require .printf
  match ← pop? with
  | none => return
  | some operand =>
    let value ←
      if operand.kind.family = .floating then convert operand Family.floating.widest
      else pure operand
    call .printf value.kind.pattern (some (.value value))

/-- Apply an operator to the two topmost operands. -/
def arithmetic (operator : Arithmetic) : BuildM Unit := do
  match ← popPair? with
  | none => return
  | some (first, second) =>
    let (first, second) ← reconcile operator first second
    let id ← addValue (.arithmetic operator first.kind first second)
    push (.register id first.kind)

end Builder

/-- A command to a builder. -/
inductive Command where
  | declare (kind : Kind) (name : String)
  | declareNamed (type name : String)
  | load (name : String)
  | store (name : String)
  | read (name : String)
  | write (text : String)
  | print
  | pushInteger (text : String)
  | pushReal (text : String)
  | arithmetic (operator : Arithmetic)
  deriving DecidableEq, Repr

namespace Command

/-- Carry a command out. -/
def run : Command → BuildM Unit
  | .declare kind name => Builder.declare kind name
  | .declareNamed type name => Builder.declareNamed type name
  | .load name => Builder.load name
  | .store name => Builder.store name
  | .read name => Builder.read name
  | .write text => Builder.write text
  | .print => Builder.print
  | .pushInteger text => Builder.push (.constant text .i32)
  | .pushReal text => Builder.push (.constant text .f32)
  | .arithmetic operator => Builder.arithmetic operator

/-- The operands that a command takes from the stack. -/
def arity : Command → Nat
  | .store _ => 1
  | .print => 1
  | .arithmetic _ => 2
  | _ => 0

/-- The name of a command in a trace. -/
def label : Command → String
  | .declare _ _ => "declare"
  | .declareNamed _ _ => "declare"
  | .load _ => "load"
  | .store _ => "store"
  | .read _ => "read"
  | .write _ => "write"
  | .print => "print"
  | .pushInteger _ => "push int"
  | .pushReal _ => "push real"
  | .arithmetic operator => operator.symbol

end Command

end Stackline
