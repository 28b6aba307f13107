import Stackline.Code.Program

/-!
# Builder state

What is known while a program is built: the lines so far, the texts and external
functions they use, the operands that wait on the stack, and where each variable
lives. A step may fail; the state it leaves behind is then part of the result,
so that a failure that changes nothing is a statement about it.
-/

namespace Stackline

open Stackline.Code

/-- The storage of a variable. -/
structure Slot where
  address : Register
  kind : Kind
  deriving DecidableEq, Repr

/-- Why a step fails. -/
inductive BuildError where
  | unknownType (name : String)
  | unknownVariable (name : String)
  | noMatchingOperator (operator : Arithmetic) (left right : Kind)
  | noConversion (source target : Kind)
  deriving DecidableEq, Repr

/-- A program under construction. The stack has its top first, and the latest
declaration of a name stands before earlier ones. -/
structure Builder where
  listing : Listing Instruction
  pool : Pool
  externals : Externals
  stack : List Operand
  slots : List (String × Slot)
  deriving DecidableEq, Repr

/-- A step of a builder. -/
abbrev BuildM :=
  EStateM BuildError Builder

namespace Builder

/-- Nothing is built yet. -/
def empty : Builder :=
  ⟨.empty, .empty, .empty, [], []⟩

/-- The storage that a name stands for. -/
def slot? (builder : Builder) (name : String) : Option Slot :=
  builder.slots.lookup name

/-- The program that has been built. -/
def program (builder : Builder) : Program :=
  ⟨builder.pool, builder.listing.lines, builder.externals⟩

/-- Append an instruction whose value takes the next register. -/
def addValue (instruction : Instruction) : BuildM Register := fun builder =>
  let (register, listing) := builder.listing.addValue instruction
  .ok register { builder with listing := listing }

/-- Append an instruction without a value. -/
def addEffect (instruction : Instruction) : BuildM Unit :=
  modify fun builder => { builder with listing := builder.listing.addEffect instruction }

/-- Put an operand on the stack. -/
def push (operand : Operand) : BuildM Unit :=
  modify fun builder => { builder with stack := operand :: builder.stack }

/-- Take the top of the stack, if there is one. -/
def pop? : BuildM (Option Operand) := fun builder =>
  match builder.stack with
  | [] => .ok none builder
  | top :: rest => .ok (some top) { builder with stack := rest }

/-- Take the two topmost operands, the lower one first. With fewer operands the
stack stays as it is. -/
def popPair? : BuildM (Option (Operand × Operand)) := fun builder =>
  match builder.stack with
  | second :: first :: rest => .ok (some (first, second)) { builder with stack := rest }
  | _ => .ok none builder

/-- Note that an external function is called. -/
def require (external : External) : BuildM Unit :=
  modify fun builder => { builder with externals := builder.externals.require external }

/-- Store a text in the pool. -/
def intern (text : String) : BuildM Pooled := fun builder =>
  let (pooled, pool) := builder.pool.intern text
  .ok pooled { builder with pool := pool }

/-- Let a name stand for some storage from here on. -/
def bindName (name : String) (slot : Slot) : BuildM Unit :=
  modify fun builder => { builder with slots := (name, slot) :: builder.slots }

/-- Find the storage of a name. -/
def find (name : String) : BuildM Slot := fun builder =>
  match builder.slot? name with
  | some slot => .ok slot builder
  | none => .error (.unknownVariable name) builder

end Builder

end Stackline
