import Stackline.Proofs.Assembly.Typing
import Stackline.Proofs.Semantics.Script

/-!
# A machine for bodies

Carrying out the lines of a body as their texts say, on registers and memory. The
machine stops wherever a line does not make sense: at a register that is empty or
holds something else than the line takes it for, at storage of another kind, at a
conversion or an operator of the wrong class, at a call that passes something under a
format which does not fit it. A call that passes nothing never stops the machine: it
hands its format over as it is, and a percent sign in it is one character like others.
How a format is read that has such signs is said with `Code.printed?`. What a call
returns is of no use to any line.
-/

namespace Stackline.Semantics

open Stackline.Code (Kind Conversion External utf8)
open Stackline.Assembly (Value Pointer Format Instruction Line)

/-- What a register holds. -/
inductive Content (V : Type) where
  | address (cell : Nat)
  | value (kind : Kind) (value : V)
  | status
  deriving DecidableEq, Repr

/-- Registers, memory cells in the order in which they were set aside, and what waits
to be read and was written. -/
structure Machine (V : Type) where
  registers : Nat → Option (Content V)
  memory : List (Kind × V)
  inputs : List V
  outputs : List (Output V)

variable {V : Type}

namespace Machine

/-- Nothing is done yet. -/
def start (inputs : List V) : Machine V :=
  ⟨fun _ => none, [], inputs, []⟩

/-- Fill a register. -/
def fill (machine : Machine V) (register : Nat) (content : Content V) : Machine V :=
  { machine with
    registers := fun id => if id = register then some content else machine.registers id }

/-- The value that a line takes at a kind. -/
def value? (interpretation : Interpretation V) (machine : Machine V) (kind : Kind) :
    Value → Option V
  | .literal text => some (interpretation.constant kind text)
  | .register id =>
    match machine.registers id with
    | some (.value found value) => if found = kind then some value else none
    | _ => none

/-- The memory cell behind a pointer, with its kind and contents. A pointer that shows
a kind must show that of the cell. -/
def cell? (machine : Machine V) (pointer : Pointer) : Option (Nat × Kind × V) :=
  match machine.registers pointer.register with
  | some (.address cell) => do
    let (kind, value) ← machine.memory[cell]?
    guard (∀ shown ∈ pointer.pointee, shown = kind)
    return (cell, kind, value)
  | _ => none

end Machine

/-- The text that a format stands for. -/
def text? (texts : List String) (format : Format) : Option String :=
  match format.text with
  | 0 => none
  | index + 1 => do
    let text ← texts[index]?
    guard (∀ size ∈ format.size, size = (utf8 text).length + 1)
    return text

instance (source target : Kind) (conversion : Conversion) :
    Decidable (conversion.Legal source target) :=
  match conversion with
  | .signExtend => inferInstanceAs (Decidable (_ ∧ _ ∧ _))
  | .truncate => inferInstanceAs (Decidable (_ ∧ _ ∧ _))
  | .extend => inferInstanceAs (Decidable (_ ∧ _ ∧ _))
  | .round => inferInstanceAs (Decidable (_ ∧ _ ∧ _))
  | .integerToFloating => inferInstanceAs (Decidable (_ ∧ _))
  | .floatingToInteger => inferInstanceAs (Decidable (_ ∧ _))

/-- Carry an instruction out, and return what it leaves in its register. Of a call that passes
nothing the format is the output, unread. -/
def perform (interpretation : Interpretation V) (initial : Nat → V) (texts : List String)
    (instruction : Instruction) (machine : Machine V) :
    Option (Option (Content V) × Machine V) :=
  match instruction with
  | .allocate kind alignment => do
    guard (alignment = kind.bytes)
    let cell := machine.memory.length
    return (some (.address cell),
      { machine with memory := machine.memory ++ [(kind, initial cell)] })
  | .load kind source alignment => do
    let (_, found, value) ← machine.cell? source
    guard (found = kind ∧ alignment = kind.bytes)
    return (some (.value kind value), machine)
  | .store kind value target alignment => do
    let value ← machine.value? interpretation kind value
    let (cell, found, _) ← machine.cell? target
    guard (found = kind ∧ alignment = kind.bytes)
    return (none, { machine with memory := machine.memory.set cell (kind, value) })
  | .convert conversion source value target => do
    let value ← machine.value? interpretation source value
    guard (conversion.Legal source target)
    return (some (.value target (interpretation.convert source target value)), machine)
  | .arithmetic operator family kind first second => do
    let first ← machine.value? interpretation kind first
    let second ← machine.value? interpretation kind second
    guard (family = kind.family)
    return (some (.value kind (interpretation.apply operator kind first second)), machine)
  | .call .scanf format (some (.storage pointer)) => do
    let text ← text? texts format
    let (cell, kind, _) ← machine.cell? pointer
    guard (text = kind.pattern)
    match machine.inputs with
    | [] => return (some .status, machine)
    | value :: rest =>
      return (some .status,
        { machine with memory := machine.memory.set cell (kind, value), inputs := rest })
  | .call .printf format none => do
    let text ← text? texts format
    return (some .status, { machine with outputs := machine.outputs ++ [.text text] })
  | .call .printf format (some (.value kind value)) => do
    let text ← text? texts format
    let value ← machine.value? interpretation kind value
    guard (text = kind.pattern ∧ kind ≠ .f32)
    return (some .status, { machine with outputs := machine.outputs ++ [.value kind value] })
  | .call _ _ _ => none

/-- Carry a line out. It takes a register exactly if it leaves something. -/
def execute (interpretation : Interpretation V) (initial : Nat → V) (texts : List String)
    (machine : Machine V) (line : Line) : Option (Machine V) := do
  let (left, machine) ← perform interpretation initial texts line.instruction machine
  match line.result, left with
  | some register, some content => return machine.fill register content
  | none, none => return machine
  | _, _ => none

/-- Carry the lines of a body out in order. -/
def executeAll (interpretation : Interpretation V) (initial : Nat → V) (texts : List String)
    (body : List Line) (machine : Machine V) : Option (Machine V) :=
  body.foldlM (execute interpretation initial texts) machine

/-- Read the lines of a body from their texts and carry them out. -/
def executeTexts (interpretation : Interpretation V) (initial : Nat → V) (texts : List String)
    (lines : List String) (machine : Machine V) : Option (Machine V) := do
  executeAll interpretation initial texts (← Assembly.readBody? lines) machine

end Stackline.Semantics
