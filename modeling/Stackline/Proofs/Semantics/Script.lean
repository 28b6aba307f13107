import Stackline.Script.Operation

/-!
# The meaning of scripts

What a script does when it is carried out directly: operands on a stack, names that
stand for slots, values read and written. Nothing is said about lines or registers.
What conversions and operators compute is left open; an `Interpretation` supplies it.
A text is written as the format that is handed to `printf`; what `printf` shows of it
is another matter (`Code.printed?`).
-/

namespace Stackline.Semantics

open Stackline.Code
open Stackline.Script (Operation)

/-- What constants, conversions and operators come to. -/
structure Interpretation (V : Type) where
  constant : Kind → String → V
  convert : Kind → Kind → V → V
  apply : Arithmetic → Kind → V → V → V

/-- Something written: a text, as the format that it is handed over for, or a value of a
kind. -/
inductive Output (V : Type) where
  | text (content : String)
  | value (kind : Kind) (value : V)
  deriving DecidableEq, Repr

/-- The place of a kind in the chain from the smallest to the largest. -/
def rank : Kind → Nat
  | .i32 => 0
  | .i64 => 1
  | .f32 => 2
  | .f64 => 3

/-- The larger of two kinds. -/
def larger (left right : Kind) : Kind :=
  if rank left < rank right then right else left

/-- The kind at which a value is written: small floating values are widened. -/
def widened : Kind → Kind
  | .f32 => .f64
  | kind => kind

/-- A script under way. The stack has its top first, and the latest declaration of a
name stands before earlier ones. -/
structure State (V : Type) where
  stack : List (Kind × V)
  names : List (String × Nat)
  slots : List (Kind × V)
  inputs : List V
  outputs : List (Output V)
  deriving DecidableEq, Repr

variable {V : Type}

/-- A value of one kind as one of another. -/
def Interpretation.carry (interpretation : Interpretation V) (source target : Kind) (value : V) :
    V :=
  if source = target then value else interpretation.convert source target value

/-- What is written of a value. -/
def Interpretation.written (interpretation : Interpretation V) (kind : Kind) (value : V) :
    Output V :=
  .value (widened kind) (interpretation.carry kind (widened kind) value)

namespace State

/-- Nothing is done yet, and these values wait to be read. -/
def start (inputs : List V) : State V :=
  ⟨[], [], [], inputs, []⟩

/-- The slot that a name stands for, by its number, with its kind and contents. -/
def slot? (state : State V) (name : String) : Option (Nat × Kind × V) := do
  let index ← state.names.lookup name
  let (kind, value) ← state.slots[index]?
  return (index, kind, value)

/-- Make a fresh slot and let a name stand for it. What it holds at first depends on
its number only. -/
def declare (initial : Nat → V) (kind : Kind) (name : String) (state : State V) : State V :=
  { state with
    names := (name, state.slots.length) :: state.names
    slots := state.slots ++ [(kind, initial state.slots.length)] }

/-- Push a value. -/
def push (kind : Kind) (value : V) (state : State V) : State V :=
  { state with stack := (kind, value) :: state.stack }

/-- Write something. -/
def write (output : Output V) (state : State V) : State V :=
  { state with outputs := state.outputs ++ [output] }

/-- Push what a variable holds now. -/
def load (name : String) (state : State V) : Option (State V) := do
  let (_, kind, value) ← state.slot? name
  return state.push kind value

/-- Move the top of the stack into a variable. -/
def store (interpretation : Interpretation V) (name : String) (state : State V) :
    Option (State V) := do
  let (index, kind, _) ← state.slot? name
  match state.stack with
  | [] => return state
  | (source, value) :: rest =>
    return { state with
      stack := rest
      slots := state.slots.set index (kind, interpretation.carry source kind value) }

/-- Take the next input into a variable. When no input is left the variable keeps its
contents. -/
def read (name : String) (state : State V) : Option (State V) := do
  let (index, kind, _) ← state.slot? name
  match state.inputs with
  | [] => return state
  | value :: rest =>
    return { state with slots := state.slots.set index (kind, value), inputs := rest }

/-- Write the top of the stack. -/
def print (interpretation : Interpretation V) (state : State V) : State V :=
  match state.stack with
  | [] => state
  | (kind, value) :: rest =>
    { state with stack := rest }.write (interpretation.written kind value)

/-- Apply an operator to the two topmost operands, the lower one first. -/
def arithmetic (interpretation : Interpretation V) (operator : Arithmetic) (state : State V) :
    State V :=
  match state.stack with
  | (secondKind, second) :: (firstKind, first) :: rest =>
    let kind := larger firstKind secondKind
    { state with stack := rest }.push kind
      (interpretation.apply operator kind (interpretation.carry firstKind kind first)
        (interpretation.carry secondKind kind second))
  | _ => state

end State

/-- Carry an operation out. It is undefined for names that stand for nothing. -/
def step (interpretation : Interpretation V) (initial : Nat → V) (operation : Operation)
    (state : State V) : Option (State V) :=
  match operation with
  | .declare type name => (Kind.named? type).map fun kind => state.declare initial kind name
  | .read name => state.read name
  | .writeText text => some (state.write (.text text))
  | .writeVariable name => do
    let (_, kind, value) ← state.slot? name
    return state.write (interpretation.written kind value)
  | .print => some (state.print interpretation)
  | .pushInteger text => some (state.push .i32 (interpretation.constant .i32 text))
  | .pushReal text => some (state.push .f32 (interpretation.constant .f32 text))
  | .load name => state.load name
  | .arithmetic operator => some (state.arithmetic interpretation operator)
  | .store name => state.store interpretation name

/-- Carry operations out in order. -/
def run (interpretation : Interpretation V) (initial : Nat → V) (operations : List Operation)
    (state : State V) : Option (State V) :=
  operations.foldlM (fun state operation => step interpretation initial operation state) state

end Stackline.Semantics
