import Mathlib
import Stackline.Proofs.Builder.Atomicity
import Stackline.Proofs.Semantics.Simulation

/-!
# Expressions

An expression is handed to a builder by the operations of its parts, the operator last.
Whatever state the builder is in, as long as the variables are declared this leaves one
operand above the stack that was there. Its kind is the largest among the leaves, so it
does not depend on the shape of the expression. There is one line for each variable, one
for each operator, and one more for each operator whose parts differ in kind.
-/

namespace Stackline.Script

open Stackline.Code
open Stackline.Semantics (rank larger)

/-- An expression over constants and variables. -/
inductive Expression where
  | integer (text : String)
  | real (text : String)
  | named (name : String)
  | apply (operator : Arithmetic) (left right : Expression)
  deriving DecidableEq, Repr

namespace Expression

/-- The operations of an expression, those of its parts first. -/
def operations : Expression → List Operation
  | .integer text => [.pushInteger text]
  | .real text => [.pushReal text]
  | .named name => [.load name]
  | .apply operator left right => left.operations ++ right.operations ++ [.arithmetic operator]

/-- The variables of an expression, one for each leaf that names one. -/
def names : Expression → List String
  | .integer _ => []
  | .real _ => []
  | .named name => [name]
  | .apply _ left right => left.names ++ right.names

/-- The number of operators. -/
def operators : Expression → Nat
  | .integer _ => 0
  | .real _ => 0
  | .named _ => 0
  | .apply _ left right => left.operators + right.operators + 1

/-- The kinds of the leaves. Those of the variables are given. -/
def leafKinds (kindOf : String → Kind) : Expression → List Kind
  | .integer _ => [.i32]
  | .real _ => [.f32]
  | .named name => [kindOf name]
  | .apply _ left right => left.leafKinds kindOf ++ right.leafKinds kindOf

/-- The largest kind among the leaves. No kind is smaller than the one that the search
starts from. -/
def kind (kindOf : String → Kind) (expression : Expression) : Kind :=
  (expression.leafKinds kindOf).foldr larger .i32

/-- The number of operators whose parts differ in kind. -/
def mismatches (kindOf : String → Kind) : Expression → Nat
  | .integer _ => 0
  | .real _ => 0
  | .named _ => 0
  | .apply _ left right =>
    left.mismatches kindOf + right.mismatches kindOf +
      if left.kind kindOf = right.kind kindOf then 0 else 1

/-! ### The largest kind -/

theorem larger_i32 (kind : Kind) : larger kind .i32 = kind := by
  cases kind <;> rfl

theorem larger_assoc (first second third : Kind) :
    larger (larger first second) third = larger first (larger second third) := by
  cases first <;> cases second <;> cases third <;> rfl

theorem rank_larger (left right : Kind) :
    rank (larger left right) = max (rank left) (rank right) := by
  cases left <;> cases right <;> rfl

theorem foldr_larger (kinds : List Kind) (start : Kind) :
    kinds.foldr larger start = larger (kinds.foldr larger .i32) start := by
  induction kinds with
  | nil => cases start <;> rfl
  | cons kind rest inductionHypothesis =>
    rw [List.foldr_cons, List.foldr_cons, inductionHypothesis, larger_assoc]

/-- The kind of an expression is the larger one of its parts. -/
theorem kind_apply (kindOf : String → Kind) (operator : Arithmetic) (left right : Expression) :
    (apply operator left right).kind kindOf = larger (left.kind kindOf) (right.kind kindOf) := by
  rw [kind, leafKinds, List.foldr_append, foldr_larger]
  rfl

theorem rank_le_foldr {kinds : List Kind} {kind : Kind} (member : kind ∈ kinds) :
    rank kind ≤ rank (kinds.foldr larger .i32) := by
  induction kinds with
  | nil => cases member
  | cons first rest inductionHypothesis =>
    rw [List.foldr_cons, rank_larger]
    rcases List.mem_cons.1 member with rfl | later
    · exact le_max_left _ _
    · exact (inductionHypothesis later).trans (le_max_right _ _)

theorem foldr_mem {kinds : List Kind} (nonempty : kinds ≠ []) :
    kinds.foldr larger .i32 ∈ kinds := by
  induction kinds with
  | nil => exact absurd rfl nonempty
  | cons first rest inductionHypothesis =>
    rw [List.foldr_cons]
    by_cases alone : rest = []
    · rw [alone, List.foldr_nil, larger_i32]
      exact .head _
    · unfold larger
      split
      · exact .tail _ (inductionHypothesis alone)
      · exact .head _

theorem leafKinds_ne_nil (kindOf : String → Kind) (expression : Expression) :
    expression.leafKinds kindOf ≠ [] := by
  induction expression with
  | apply operator left right leftHypothesis _ =>
    simp [leafKinds, leftHypothesis]
  | _ => simp [leafKinds]

/-- The kind of an expression is the maximum of the kinds of its leaves. -/
theorem kind_maximum (kindOf : String → Kind) (expression : Expression) :
    expression.kind kindOf ∈ expression.leafKinds kindOf ∧
      ∀ kind ∈ expression.leafKinds kindOf, rank kind ≤ rank (expression.kind kindOf) :=
  ⟨foldr_mem (leafKinds_ne_nil kindOf expression), fun _ => rank_le_foldr⟩

/-- The commands of an expression. -/
def commands (expression : Expression) : List Command :=
  expression.operations.flatMap Compile.commands

theorem commands_apply (operator : Arithmetic) (left right : Expression) :
    (apply operator left right).commands =
      left.commands ++ right.commands ++ [.arithmetic operator] := by
  simp [commands, operations, Compile.commands]

/-- The commands of an expression declare nothing, name no type, and need no variable but
those of the expression. -/
theorem of_mem_commands {expression : Expression} {command : Command}
    (member : command ∈ expression.commands) :
    command.declared? = none ∧ ∀ name ∈ command.needed?, name ∈ expression.names := by
  induction expression with
  | apply operator left right leftHypothesis rightHypothesis =>
    rw [commands_apply, List.mem_append, List.mem_append, List.mem_singleton] at member
    rcases member with (inLeft | inRight) | rfl
    · obtain ⟨undeclaring, needs⟩ := leftHypothesis inLeft
      exact ⟨undeclaring, fun name needed => List.mem_append_left _ (needs name needed)⟩
    · obtain ⟨undeclaring, needs⟩ := rightHypothesis inRight
      exact ⟨undeclaring, fun name needed => List.mem_append_right _ (needs name needed)⟩
    · exact ⟨rfl, fun _ needed => by cases needed⟩
  | named name =>
    cases List.mem_singleton.1 member
    exact ⟨rfl, fun _ needed => by cases needed; exact .head _⟩
  | _ =>
    cases List.mem_singleton.1 member
    exact ⟨rfl, fun _ needed => by cases needed⟩

end Expression

end Stackline.Script

namespace Stackline.Builder

open Stackline.Code
open Stackline.Code.Listing (HandsOut handsOut_addValue)

/-- The state with more lines that each take a register. -/
def withValues (builder : Builder) (instructions : List Instruction) : Builder :=
  instructions.foldl withValue builder

theorem withValues_append (builder : Builder) (first second : List Instruction) :
    builder.withValues (first ++ second) = (builder.withValues first).withValues second :=
  List.foldl_append

@[simp] theorem withStack_withStack (builder : Builder) (first second : List Operand) :
    (builder.withStack first).withStack second = builder.withStack second := rfl

@[simp] theorem withStack_stack (builder : Builder) :
    builder.withStack builder.stack = builder := rfl

@[simp] theorem stack_withOperand (builder : Builder) (operand : Operand) :
    (builder.withOperand operand).stack = operand :: builder.stack := rfl

@[simp] theorem withStack_withOperand (builder : Builder) (operand : Operand)
    (stack : List Operand) :
    (builder.withOperand operand).withStack stack = builder.withStack stack := rfl

@[simp] theorem withStack_withValues (builder : Builder) (stack : List Operand)
    (instructions : List Instruction) :
    (builder.withStack stack).withValues instructions =
      (builder.withValues instructions).withStack stack := by
  induction instructions generalizing builder with
  | nil => rfl
  | cons instruction rest inductionHypothesis =>
    exact inductionHypothesis (builder.withValue instruction)

@[simp] theorem stack_withValues (builder : Builder) (instructions : List Instruction) :
    (builder.withValues instructions).stack = builder.stack := by
  induction instructions generalizing builder with
  | nil => rfl
  | cons instruction rest inductionHypothesis =>
    exact inductionHypothesis (builder.withValue instruction)

/-- Operands that are taken off the stack leave the lines behind that were added meanwhile. -/
theorem withStack_behind_operands (builder : Builder) (lefts rights : List Instruction)
    (first second : Operand) :
    ((((builder.withValues lefts).withOperand first).withValues rights).withOperand
        second).withStack builder.stack = (builder.withValues lefts).withValues rights := by
  have restored := withStack_stack ((builder.withValues lefts).withValues rights)
  rw [stack_withValues, stack_withValues] at restored
  rw [withStack_withOperand]
  unfold withOperand
  rw [withStack_withValues, withStack_withStack, restored]

/-- More lines change neither the variables nor the texts nor the external functions. -/
theorem withValues_frame (builder : Builder) (instructions : List Instruction) :
    (builder.withValues instructions).slots = builder.slots ∧
      (builder.withValues instructions).pool = builder.pool ∧
      (builder.withValues instructions).externals = builder.externals := by
  induction instructions generalizing builder with
  | nil => exact ⟨rfl, rfl, rfl⟩
  | cons instruction rest inductionHypothesis =>
    exact inductionHypothesis (builder.withValue instruction)

theorem slot?_withValues (builder : Builder) (instructions : List Instruction) (name : String) :
    (builder.withValues instructions).slot? name = builder.slot? name := by
  rw [slot?, (builder.withValues_frame instructions).1, slot?]

theorem slot?_withOperand (builder : Builder) (operand : Operand) (name : String) :
    (builder.withOperand operand).slot? name = builder.slot? name := rfl

/-- The lines of instructions take the next registers, one after the other. -/
theorem withValues_listing (builder : Builder) (instructions : List Instruction) :
    HandsOut instructions.length builder.listing (builder.withValues instructions).listing ∧
      ∃ lines, (builder.withValues instructions).listing.lines = builder.listing.lines ++ lines ∧
        lines.map Line.content = instructions ∧ ∀ line ∈ lines, line.register?.isSome := by
  induction instructions generalizing builder with
  | nil => exact ⟨.refl, [], (List.append_nil _).symm, rfl, fun _ member => by cases member⟩
  | cons instruction rest inductionHypothesis =>
    obtain ⟨others, lines, added, contents, values⟩ :=
      inductionHypothesis (builder.withValue instruction)
    refine ⟨?_, .value builder.listing.next instruction :: lines, ?_, ?_, ?_⟩
    · rw [List.length_cons, Nat.add_comm]
      exact (handsOut_addValue builder.listing instruction).trans others
    · exact added.trans (List.append_assoc _ [_] lines)
    · rw [List.map_cons, contents]
      rfl
    · exact List.forall_mem_cons.2 ⟨rfl, values⟩

/-- Carrying an operand adds one line if its kind is another, and none otherwise. -/
theorem Carries.withValues_eq {before after : Builder} {operand value : Operand} {target : Kind}
    (carried : Carries before operand target value after) :
    ∃ instructions, after = before.withValues instructions ∧
      instructions.length = if operand.kind = target then 0 else 1 := by
  cases carried with
  | kept => exact ⟨[], rfl, by simp⟩
  | converted found =>
    refine ⟨[_], rfl, ?_⟩
    have differ : operand.kind ≠ target := by
      intro same
      rw [Conversion.between?_eq_none_iff.2 same] at found
      cases found
    simp [differ]

end Stackline.Builder

namespace Stackline.Command

open Stackline.Code
open Stackline.Script
open Stackline.Semantics (rank larger commonKind_eq_larger)

/-- Of two kinds at most one differs from the larger one, and one does if they differ. -/
theorem mismatch_larger (left right : Kind) :
    ((if left = larger left right then 0 else 1) + if right = larger left right then 0 else 1) =
      if left = right then 0 else 1 := by
  cases left <;> cases right <;> rfl

/-- Applying an operator to the two topmost operands adds its line, behind one that carries
an operand if the two differ in kind. -/
theorem Step.arithmetic_eq {operator : Arithmetic} {before after : Builder}
    {first second : Operand} {rest : List Operand}
    (step : Step (.arithmetic operator) before after)
    (top : before.stack = second :: first :: rest) :
    ∃ operand instructions,
      after = ((before.withStack rest).withValues instructions).withOperand operand ∧
        operand.kind = larger first.kind second.kind ∧
        instructions.length = (if first.kind = second.kind then 0 else 1) + 1 := by
  cases step with
  | arithmeticNothing short => simp [top] at short
  | @arithmetic _ _ _ _ _ left middle right carried found leftCarried rightCarried =>
    obtain ⟨rfl, rfl, rfl⟩ : second = _ ∧ first = _ ∧ rest = _ := by
      simpa using top.symm.trans found
    obtain ⟨lefts, leftAdded, leftCount⟩ := leftCarried.withValues_eq
    obtain ⟨rights, rightAdded, rightCount⟩ := rightCarried.withValues_eq
    have kind : left.kind = larger first.kind second.kind :=
      leftCarried.kind_eq.trans (commonKind_eq_larger _ _)
    refine ⟨.register carried.listing.next left.kind,
      lefts ++ rights ++ [.arithmetic operator left.kind left right], ?_, kind, ?_⟩
    · rw [Builder.withValues_append, Builder.withValues_append, ← leftAdded, ← rightAdded]
      rfl
    · rw [commonKind_eq_larger] at leftCount rightCount
      rw [List.length_append, List.length_append, leftCount, rightCount, mismatch_larger]
      rfl

/-- An expression leaves one operand of its kind above the stack, and nothing else changes but
that lines are added, as many as its variables, operators and mismatches demand. -/
theorem Steps.expression {expression : Expression} {kindOf : String → Kind}
    {before after : Builder}
    (declared : ∀ name ∈ expression.names,
      (before.slot? name).map Slot.kind = some (kindOf name))
    (run : Steps expression.commands before after) :
    ∃ operand instructions, after = (before.withValues instructions).withOperand operand ∧
      operand.kind = expression.kind kindOf ∧
      instructions.length =
        expression.names.length + expression.operators + expression.mismatches kindOf := by
  induction expression generalizing before after with
  | integer text =>
    obtain _ | ⟨⟨⟩, ⟨⟩⟩ := run
    exact ⟨_, [], rfl, rfl, rfl⟩
  | real text =>
    obtain _ | ⟨⟨⟩, ⟨⟩⟩ := run
    exact ⟨_, [], rfl, rfl, rfl⟩
  | named name =>
    obtain _ | ⟨⟨⟩, ⟨⟩⟩ := run
    rename_i slot found
    have slotKind := declared name (.head _)
    rw [found, Option.map_some, Option.some_inj] at slotKind
    refine ⟨_, [_], rfl, ?_, rfl⟩
    exact slotKind.trans (Expression.larger_i32 _).symm
  | apply operator left right leftHypothesis rightHypothesis =>
    rw [Expression.commands_apply] at run
    obtain ⟨behindRight, run, last⟩ := run.cut
    obtain ⟨behindLeft, leftRun, rightRun⟩ := run.cut
    obtain ⟨first, lefts, rfl, firstKind, leftCount⟩ := leftHypothesis
      (fun name member => declared name (List.mem_append_left _ member)) leftRun
    obtain ⟨second, rights, rfl, secondKind, rightCount⟩ := rightHypothesis
      (fun name member => by
        rw [Builder.slot?_withOperand, Builder.slot?_withValues]
        exact declared name (List.mem_append_right _ member)) rightRun
    obtain _ | ⟨step, ⟨⟩⟩ := last
    have top : ((((before.withValues lefts).withOperand first).withValues rights).withOperand
        second).stack = second :: first :: before.stack := by simp
    obtain ⟨operand, instructions, rfl, kind, count⟩ := step.arithmetic_eq top
    refine ⟨operand, lefts ++ rights ++ instructions, ?_, ?_, ?_⟩
    · rw [Builder.withStack_behind_operands, Builder.withValues_append, Builder.withValues_append]
    · rw [kind, firstKind, secondKind, Expression.kind_apply]
    · rw [List.length_append, List.length_append, leftCount, rightCount, count, firstKind,
        secondKind]
      simp only [Expression.names, Expression.operators, Expression.mismatches, List.length_append]
      omega

end Stackline.Command

namespace Stackline.Compile

open Stackline.Code
open Stackline.Code.Listing (HandsOut)
open Stackline.Command
open Stackline.Script
open Stackline.Semantics (rank)

/-- The commands of an expression are carried out to the last if its variables are known. -/
theorem steps_of_expression (tracing : Tracing) {expression : Expression}
    {statements : List Statement} {before : Builder}
    (postorder : statements.map Statement.operation = expression.operations)
    (declared : ∀ name ∈ expression.names, (before.slot? name).isSome) :
    (replay tracing statements before).failure = none ∧
      Steps expression.commands before (replay tracing statements before).builder := by
  have inside : scriptCommands statements = expression.commands := by
    rw [scriptCommands, Expression.commands, ← postorder, List.flatMap_map]
  cases replay_replayed tracing statements before with
  | done accepted run => exact ⟨accepted, inside ▸ run⟩
  | @stopped earlier statement later done command rest error failed split within run refusal =>
    have member : command ∈ expression.commands := by
      rw [← inside, split]
      simp [scriptCommands, within]
    obtain ⟨undeclaring, needs⟩ := Expression.of_mem_commands member
    cases refusal with
    | unknownType _ => cases undeclaring
    | unknownVariable needed unbound =>
      have known := (run.slot?_isSome _).2 (.inl (declared _ (needs _ needed)))
      simp [unbound] at known

/-- Handing an expression to a builder that knows its variables succeeds. It leaves exactly
one operand above the stack that was there, whose kind is the maximum of the kinds of the
leaves, and changes nothing else but that it appends lines. Each of them takes the next
register, and there is one for each variable, one for each operator and one for each operator
whose parts differ in kind. -/
theorem expression_pushes_promoted_operand (tracing : Tracing) (expression : Expression)
    (statements : List Statement) (before : Builder) (kindOf : String → Kind)
    (postorder : statements.map Statement.operation = expression.operations)
    (declared : ∀ name ∈ expression.names,
      (before.slot? name).map Slot.kind = some (kindOf name)) :
    (replay tracing statements before).failure = none ∧
      ∃ operand lines after, (replay tracing statements before).builder = after ∧
        after.stack = operand :: before.stack ∧
        after.slots = before.slots ∧ after.pool = before.pool ∧
        after.externals = before.externals ∧
        operand.kind ∈ expression.leafKinds kindOf ∧
        (∀ kind ∈ expression.leafKinds kindOf, rank kind ≤ rank operand.kind) ∧
        after.listing.lines = before.listing.lines ++ lines ∧
        (∀ line ∈ lines, line.register?.isSome) ∧
        HandsOut lines.length before.listing after.listing ∧
        lines.length =
          expression.names.length + expression.operators + expression.mismatches kindOf := by
  have known : ∀ name ∈ expression.names, (before.slot? name).isSome := by
    intro name member
    rw [← Option.isSome_map, declared name member]
    rfl
  obtain ⟨accepted, run⟩ := steps_of_expression tracing postorder known
  obtain ⟨operand, instructions, reached, kind, count⟩ := run.expression declared
  obtain ⟨slots, pool, externals⟩ := before.withValues_frame instructions
  obtain ⟨handsOut, lines, added, contents, values⟩ := before.withValues_listing instructions
  have length : lines.length = instructions.length := by rw [← contents, List.length_map]
  obtain ⟨member, maximum⟩ := expression.kind_maximum kindOf
  refine ⟨accepted, operand, lines, _, reached, by simp, slots, pool, externals, kind ▸ member,
    kind ▸ maximum, added, values, ?_, length.trans count⟩
  rw [length]
  exact handsOut

/-- Above an operand that waits, `n * 2 - (0.5 + d / n)` with all four kinds among its leaves
and a mismatch at each of its operators. -/
theorem expression_pushes_promoted_operand_mixed :
    ∃ before operand after,
      before = (replay ⟨{}, .typed, .plain⟩ [⟨1, .declare "long" "n"⟩, ⟨2, .declare "double" "d"⟩,
        ⟨3, .pushInteger "7"⟩] .empty).builder ∧
      (replay ⟨{}, .typed, .plain⟩ [⟨4, .load "n"⟩, ⟨5, .pushInteger "2"⟩,
        ⟨6, .arithmetic .multiply⟩, ⟨7, .pushReal "0.5"⟩, ⟨8, .load "d"⟩, ⟨9, .load "n"⟩,
        ⟨10, .arithmetic .divide⟩, ⟨11, .arithmetic .add⟩, ⟨12, .arithmetic .subtract⟩]
        before).builder = after ∧
      after.stack = [operand, .constant "7" .i32] ∧ operand.kind = .f64 ∧
      after.listing.lines.length = 2 + 11 := by
  obtain ⟨_, operand, lines, after, reached, stack, _, _, _, _, maximum, added, _, _, count⟩ :=
    expression_pushes_promoted_operand ⟨{}, .typed, .plain⟩
      (.apply .subtract (.apply .multiply (.named "n") (.integer "2"))
        (.apply .add (.real "0.5") (.apply .divide (.named "d") (.named "n"))))
      [⟨4, .load "n"⟩, ⟨5, .pushInteger "2"⟩, ⟨6, .arithmetic .multiply⟩, ⟨7, .pushReal "0.5"⟩,
        ⟨8, .load "d"⟩, ⟨9, .load "n"⟩, ⟨10, .arithmetic .divide⟩, ⟨11, .arithmetic .add⟩,
        ⟨12, .arithmetic .subtract⟩]
      (replay ⟨{}, .typed, .plain⟩ [⟨1, .declare "long" "n"⟩, ⟨2, .declare "double" "d"⟩,
        ⟨3, .pushInteger "7"⟩] .empty).builder
      (fun name => if name = "n" then .i64 else .f64) rfl (by decide)
  refine ⟨_, operand, after, rfl, reached, stack, ?_, ?_⟩
  · have bound := maximum .f64 (by decide)
    cases kind : operand.kind <;> simp [kind, rank] at bound ⊢
  · rw [added, List.length_append, count]
    decide

end Stackline.Compile
