import Mathlib
import Stackline.Proofs.Builder.Typing

/-!
# Operands are used once

A computed value is used by one later line or waits on the stack, and never both. The account
behind this is a law of conservation: the registers that lines use as values and those that
wait, taken together, are a rearrangement of the registers that were computed (`Balanced`).
A line takes the values it uses from those that wait and adds the one that it computes, so
each step keeps the account. Registers are distinct as long as they do not run out, which
turns the account into a count of one for each value.
-/

namespace Stackline

open Stackline.Code
open Stackline.Assembly (Value)

namespace Assembly

/-! ### Uses -/

/-- The registers that an instruction uses as values. -/
def Instruction.operands : Instruction → List Nat
  | .allocate _ _ => []
  | .load _ _ _ => []
  | .store _ value _ _ => value.mentioned
  | .convert _ _ value _ => value.mentioned
  | .arithmetic _ _ _ first second => first.mentioned ++ second.mentioned
  | .call _ _ none => []
  | .call _ _ (some (.storage _)) => []
  | .call _ _ (some (.value _ value)) => value.mentioned

/-- The registers that an instruction uses as addresses. -/
def Instruction.addresses : Instruction → List Nat
  | .load _ source _ => [source.register]
  | .store _ _ target _ => [target.register]
  | .call _ _ (some (.storage pointer)) => [pointer.register]
  | _ => []

/-- A register is mentioned as a value or as an address. -/
theorem Instruction.mem_mentioned_iff {instruction : Instruction} {id : Nat} :
    id ∈ instruction.mentioned ↔ id ∈ instruction.operands ∨ id ∈ instruction.addresses := by
  cases instruction with
  | call external format argument =>
    rcases argument with _ | _ | _ <;> simp [mentioned, operands, addresses]
  | _ => simp [mentioned, operands, addresses]

/-- An instruction whose result is a value to compute with. -/
def Instruction.computes : Instruction → Bool
  | .load _ _ _ => true
  | .convert _ _ _ _ => true
  | .arithmetic _ _ _ _ _ => true
  | _ => false

/-- The register of a line that computes a value. -/
def Line.computed? (line : Line) : Option Nat :=
  if line.instruction.computes then line.result else none

/-- The registers that the lines of a body use as values. -/
def usedIn (body : List Line) : List Nat :=
  body.flatMap fun line => line.instruction.operands

/-- The registers among values that wait. -/
def waitingIn (values : List Value) : List Nat :=
  values.flatMap Value.mentioned

/-- A body and the values that wait behind it use each computed value exactly once, the result
of a call not at all, and a piece of storage by its address only. -/
structure Linear (body : List Line) (waiting : List Value) : Prop where
  computed : ∀ earlier line later id, body = earlier ++ line :: later →
    line.result = some id → line.instruction.computes →
    (usedIn later).count id + (waitingIn waiting).count id = 1
  called : ∀ line ∈ body, ∀ id external format argument, line.result = some id →
    line.instruction = .call external format argument →
    (∀ other ∈ body, id ∉ other.instruction.mentioned) ∧ id ∉ waitingIn waiting
  allocated : ∀ line ∈ body, ∀ id kind alignment, line.result = some id →
    line.instruction = .allocate kind alignment →
    (∀ other ∈ body, id ∉ other.instruction.operands) ∧ id ∉ waitingIn waiting

/-! ### The account -/

/-- The registers in use as values, in lines and among those that wait, are those that were
computed. -/
def Balanced (body : List Line) (waiting : List Value) : Prop :=
  (usedIn body ++ waitingIn waiting).Perm (body.filterMap Line.computed?)

theorem balanced_nil : Balanced [] [] :=
  .refl _

/-- The order of the values that wait makes no difference. -/
theorem Balanced.perm {body : List Line} {waiting others : List Value}
    (balanced : Balanced body waiting) (same : waiting.Perm others) : Balanced body others :=
  ((same.flatMap_right Value.mentioned).symm.append_left _).trans balanced

/-- A line takes the values that it uses, and the value that it computes waits. -/
theorem Balanced.concat {body : List Line} {line : Line} {taken waiting : List Value}
    (balanced : Balanced body (taken ++ waiting))
    (uses : line.instruction.operands = waitingIn taken) :
    Balanced (body ++ [line]) ((line.computed?.map Value.register).toList ++ waiting) := by
  have account := List.perm_iff_count.1 balanced
  refine List.perm_iff_count.2 fun id => ?_
  have before := account id
  simp only [usedIn, waitingIn, List.flatMap_append, List.count_append] at before uses ⊢
  cases computed : line.computed? <;>
    simp [computed, uses, Value.mentioned] at before ⊢ <;> omega

/-! ### One use for each register -/

/-- A register is filled by one line only. -/
theorem eq_of_result_eq {body : List Line} (distinct : (body.filterMap Line.result).Nodup)
    {line other : Line} {id : Nat} (lineMember : line ∈ body) (otherMember : other ∈ body)
    (lineResult : line.result = some id) (otherResult : other.result = some id) : line = other := by
  obtain ⟨earlier, later, rfl⟩ := List.append_of_mem lineMember
  rw [List.filterMap_append, List.filterMap_cons_some lineResult, List.nodup_append] at distinct
  obtain ⟨-, laterDistinct, apart⟩ := distinct
  rcases List.mem_append.1 otherMember with before | behind
  · have filled : id ∈ earlier.filterMap Line.result :=
      List.mem_filterMap.2 ⟨other, before, otherResult⟩
    exact absurd rfl (apart id filled id (.head _))
  · rcases List.mem_cons.1 behind with rfl | after
    · rfl
    · exact absurd (List.mem_filterMap.2 ⟨other, after, otherResult⟩)
        (List.nodup_cons.1 laterDistinct).1

/-- A line whose register nobody computed into waits nowhere and is used by no line. -/
theorem Balanced.unused {body : List Line} {waiting : List Value}
    (balanced : Balanced body waiting) {id : Nat}
    (uncomputed : id ∉ body.filterMap Line.computed?) :
    (∀ other ∈ body, id ∉ other.instruction.operands) ∧ id ∉ waitingIn waiting := by
  rw [← balanced.mem_iff, List.mem_append, not_or] at uncomputed
  exact ⟨fun other member used => uncomputed.1 (List.mem_flatMap.2 ⟨other, member, used⟩),
    uncomputed.2⟩

/-- The register of a line that computes nothing is not among those computed. -/
theorem not_mem_computed {body : List Line} (distinct : (body.filterMap Line.result).Nodup)
    {line : Line} {id : Nat} (member : line ∈ body) (result : line.result = some id)
    (idle : line.instruction.computes = false) : id ∉ body.filterMap Line.computed? := by
  intro computed
  obtain ⟨other, otherMember, found⟩ := List.mem_filterMap.1 computed
  unfold Line.computed? at found
  split at found
  · rename_i computes
    cases eq_of_result_eq distinct member otherMember result found
    simp [idle] at computes
  · cases found

/-- Distinct registers are computed once. -/
theorem nodup_computed {body : List Line} (distinct : (body.filterMap Line.result).Nodup) :
    (body.filterMap Line.computed?).Nodup := by
  have filtered : body.filterMap Line.computed? =
      (body.filter fun line => line.instruction.computes).filterMap Line.result := by
    rw [List.filterMap_filter]
    rfl
  rw [filtered]
  exact distinct.sublist (List.filter_sublist.filterMap _)

/-- A body of single assignment does not mention a register before the line that fills it, nor
in that line. -/
theorem SingleAssignment.not_mentioned {count : Nat} {earlier later : List Line} {line : Line}
    {id : Nat} (assigned : SingleAssignment count (earlier ++ line :: later))
    (result : line.result = some id) :
    ∀ other ∈ earlier ++ [line], id ∉ other.instruction.mentioned := by
  have distinct : ((earlier ++ line :: later).filterMap Line.result).Nodup := by
    rw [assigned.numbered]
    exact List.nodup_range'
  rw [List.filterMap_append, List.filterMap_cons_some result, List.nodup_append] at distinct
  have unfilled {previous : Line} (member : previous ∈ earlier) : previous.result ≠ some id := by
    intro filled
    exact distinct.2.2 id (List.mem_filterMap.2 ⟨previous, member, filled⟩) id (.head _) rfl
  intro other member mentioned
  rcases List.mem_append.1 member with before | here
  · obtain ⟨first, second, rfl⟩ := List.append_of_mem before
    obtain ⟨previous, previousMember, filled⟩ :=
      assigned.defined first other (second ++ line :: later) (by simp) id mentioned
    exact unfilled (List.mem_append_left _ previousMember) filled
  · cases List.mem_singleton.1 here
    obtain ⟨previous, previousMember, filled⟩ :=
      assigned.defined earlier line later rfl id mentioned
    exact unfilled previousMember filled

/-- An address in a well-typed body is the register of a line that sets storage aside. -/
theorem WellTyped.allocated_of_address {pointers : Pointers} {texts : List String}
    {body : List Line} (wellTyped : WellTyped pointers texts body) {line : Line} {id : Nat}
    (member : line ∈ body) (address : id ∈ line.instruction.addresses) :
    ∃ other ∈ body, other.result = some id ∧
      ∃ kind, other.instruction.held? = some (.address kind) := by
  obtain ⟨earlier, later, rfl⟩ := List.append_of_mem member
  have defined {kind : Kind} (defines : Defines earlier id (.address kind)) :
      ∃ other ∈ earlier ++ line :: later, other.result = some id ∧
        ∃ kind, other.instruction.held? = some (.address kind) := by
    obtain ⟨other, otherMember, result, held⟩ := defines
    exact ⟨other, List.mem_append_left _ otherMember, result, kind, held⟩
  have fits := (wellTyped earlier line later rfl).instruction
  generalize line.instruction = instruction at fits address
  cases fits with
  | load pointsTo =>
    cases List.mem_singleton.1 address
    exact defined pointsTo.defined
  | store _ pointsTo =>
    cases List.mem_singleton.1 address
    exact defined pointsTo.defined
  | read pointsTo _ =>
    cases List.mem_singleton.1 address
    exact defined pointsTo.defined
  | _ => cases address

/-- A balanced body whose registers are distinct uses each computed value exactly once. -/
theorem Balanced.linear {pointers : Pointers} {texts : List String} {count : Nat}
    {body : List Line} {waiting : List Value} (balanced : Balanced body waiting)
    (assigned : SingleAssignment count body) (wellTyped : WellTyped pointers texts body) :
    Linear body waiting := by
  have distinct : (body.filterMap Line.result).Nodup := by
    rw [assigned.numbered]
    exact List.nodup_range'
  refine ⟨?_, ?_, ?_⟩
  · intro earlier line later id split result computes
    subst split
    have computed : id ∈ (earlier ++ line :: later).filterMap Line.computed? :=
      List.mem_filterMap.2 ⟨line, by simp, by simp [Line.computed?, computes, result]⟩
    have once := List.count_eq_one_of_mem (nodup_computed distinct) computed
    have before : (usedIn (earlier ++ [line])).count id = 0 := by
      refine List.count_eq_zero.2 fun used => ?_
      obtain ⟨other, member, value⟩ := List.mem_flatMap.1 used
      exact assigned.not_mentioned result other member
        (Instruction.mem_mentioned_iff.2 (.inl value))
    rw [← balanced.count_eq, List.count_append, List.append_cons, usedIn, List.flatMap_append,
      List.count_append] at once
    rw [usedIn] at before ⊢
    omega
  · intro line member id external format argument result isCall
    obtain ⟨unused, absent⟩ :=
      balanced.unused (not_mem_computed distinct member result (by rw [isCall]; rfl))
    refine ⟨fun other otherMember mentioned => ?_, absent⟩
    rcases Instruction.mem_mentioned_iff.1 mentioned with value | address
    · exact unused other otherMember value
    · obtain ⟨allocated, allocatedMember, sameResult, kind, held⟩ :=
        wellTyped.allocated_of_address otherMember address
      cases eq_of_result_eq distinct member allocatedMember result sameResult
      rw [isCall] at held
      cases held
  · intro line member id kind alignment result isAllocate
    exact balanced.unused (not_mem_computed distinct member result (by rw [isAllocate]; rfl))

end Assembly

namespace Builder

open Assembly (Balanced waitingIn Linear)

variable {pointers : Pointers}

/-- Carrying an operand leaves the stack alone. -/
theorem Carries.stack_eq {before after : Builder} {operand value : Operand} {target : Kind}
    (carried : Carries before operand target value after) : after.stack = before.stack := by
  cases carried <;> rfl

/-- A line that computes takes the values that it uses, and its own value waits. -/
theorem balanced_withValue {builder : Builder} {instruction : Instruction}
    (taken : List Value) {waiting : List Value}
    (balanced : Balanced (builder.body pointers) (taken ++ waiting))
    (uses : (Assembly.Instruction.of pointers instruction).operands = waitingIn taken)
    (computes : (Assembly.Instruction.of pointers instruction).computes) :
    Balanced ((builder.withValue instruction).body pointers)
      (.register builder.listing.next.toNat :: waiting) := by
  rw [body_withValue]
  have added := @Balanced.concat _ (.of pointers (.value builder.listing.next instruction)) _ _
    balanced uses
  rwa [Assembly.Line.computed?, Assembly.Line.of, if_pos computes] at added

/-- A line with a register that computes nothing only takes the values that it uses. -/
theorem balanced_withIdle {builder : Builder} {instruction : Instruction}
    (taken : List Value) {waiting : List Value}
    (balanced : Balanced (builder.body pointers) (taken ++ waiting))
    (uses : (Assembly.Instruction.of pointers instruction).operands = waitingIn taken)
    (idle : (Assembly.Instruction.of pointers instruction).computes = false) :
    Balanced ((builder.withValue instruction).body pointers) waiting := by
  rw [body_withValue]
  have added := @Balanced.concat _ (.of pointers (.value builder.listing.next instruction)) _ _
    balanced uses
  rwa [Assembly.Line.computed?, Assembly.Line.of, idle, if_neg Bool.false_ne_true] at added

theorem balanced_withEffect {builder : Builder} {instruction : Instruction}
    (taken : List Value) {waiting : List Value}
    (balanced : Balanced (builder.body pointers) (taken ++ waiting))
    (uses : (Assembly.Instruction.of pointers instruction).operands = waitingIn taken) :
    Balanced ((builder.withEffect instruction).body pointers) waiting := by
  rw [body_withEffect]
  have added := @Balanced.concat _ (.of pointers (.effect instruction)) _ _ balanced uses
  rwa [Assembly.Line.computed?, Assembly.Line.of, ite_self] at added

/-- A carried operand waits in place of the one that it was. -/
theorem Carries.balanced {before after : Builder} {operand value : Operand} {target : Kind}
    {waiting : List Value} (carried : Carries before operand target value after)
    (balanced : Balanced (before.body pointers) (.of operand :: waiting)) :
    Balanced (after.body pointers) (.of value :: waiting) := by
  cases carried with
  | kept => exact balanced
  | converted _ =>
    exact balanced_withValue [.of operand] balanced (List.append_nil _).symm rfl

/-- The values on the stack wait. -/
def waiting (builder : Builder) : List Value :=
  builder.stack.map .of

end Builder

namespace Command

open Builder
open Assembly (Balanced)

/-- Each step keeps the account. -/
theorem Step.balanced {pointers : Pointers} {command : Command} {before after : Builder}
    (step : Step command before after)
    (balanced : Balanced (before.body pointers) before.waiting) :
    Balanced (after.body pointers) after.waiting := by
  cases step with
  | declare => exact balanced_withIdle [] balanced rfl rfl
  | declareNamed _ => exact balanced_withIdle [] balanced rfl rfl
  | load _ => exact balanced_withValue [] balanced rfl rfl
  | storeNothing _ _ => exact balanced
  | store _ top carried =>
    rw [waiting, top, List.map_cons] at balanced
    have carriedBalanced := carried.balanced balanced
    rw [waiting, withEffect, carried.stack_eq]
    exact balanced_withEffect [_] carriedBalanced (List.append_nil _).symm
  | read _ => exact balanced_withIdle [] balanced rfl rfl
  | write => exact balanced_withIdle [] balanced rfl rfl
  | printNothing _ => exact balanced
  | print top carried =>
    rw [waiting, top, List.map_cons] at balanced
    have carriedBalanced := carried.balanced balanced
    rw [waiting, withCall, withValue, withText, carried.stack_eq]
    exact balanced_withIdle [_] carriedBalanced (List.append_nil _).symm rfl
  | pushInteger => exact balanced
  | pushReal => exact balanced
  | arithmeticNothing _ => exact balanced
  | @arithmetic _ _ first second rest left middle right _ top leftCarried rightCarried =>
    rw [waiting, top, List.map_cons, List.map_cons] at balanced
    -- The operand below the top is carried first.
    have leftBalanced := leftCarried.balanced (balanced.perm (.swap _ _ _))
    have rightBalanced := rightCarried.balanced (leftBalanced.perm (.swap _ _ _))
    have stack := rightCarried.stack_eq.trans leftCarried.stack_eq
    rw [waiting, withOperand, withStack, withValue, stack]
    exact balanced_withValue [.of left, .of right] (rightBalanced.perm (.swap _ _ _))
      (by simp [Assembly.Instruction.of, Assembly.Instruction.operands, Assembly.waitingIn]) rfl

end Command

namespace Compile

open Stackline.Script
open Stackline.Command

/-- Whatever part of a script is handed to a new builder keeps the account. -/
theorem balanced_of_applied (tracing : Tracing) (pointers : Pointers) (statements : List Statement)
    {builder : Builder}
    (applied : builder = (replay tracing statements .empty).builder ∨
      builder = attempt tracing statements .empty) :
    Assembly.Balanced (builder.body pointers) builder.waiting := by
  have kept {commands : List Command} {after : Builder} (run : Steps commands .empty after) :
      Assembly.Balanced (after.body pointers) after.waiting :=
    run.preserves (fun _ => Step.balanced) (fun _ _ => trivial) Assembly.balanced_nil
  rcases applied with rfl | rfl
  · obtain ⟨_, _, run, _⟩ := replay_steps tracing statements .empty
    exact kept run
  · obtain ⟨_, _, run⟩ := attempt_steps tracing statements .empty
    exact kept run

/-- Whatever part of a script is handed to a new builder, its lines and its stack use every
value that was loaded, converted or computed exactly once: in one later line, or as an operand
that waits. What calls return is used nowhere, and storage by its address only. -/
theorem operands_used_once {source : String} {statements : List Statement}
    (parsed : parse source = .ok statements) (tracing : Tracing) (pointers : Pointers)
    (count : Nat) (builder : Builder)
    (applied : builder = (replay tracing (statements.take count) .empty).builder ∨
      builder = attempt tracing (statements.take count) .empty)
    (small : builder.listing.registers.length < 2 ^ 32 - 1) :
    ∃ body, Assembly.readBody? (builder.listing.lines.map (Line.spell pointers)) = some body ∧
      Assembly.Linear body builder.waiting := by
  have wellTyped := wellTyped_of_applied parsed tracing pointers count applied
  have assigned := wellTyped.body.singleAssignment (wellTyped.numbered_body small).1
  exact ⟨builder.body pointers, wellTyped.readBody?_eq,
    (balanced_of_applied tracing pointers _ applied).linear assigned wellTyped.body⟩

/-- A script that ends at an unknown variable, with a sum and a loaded value on the stack. -/
theorem operands_used_once_waiting :
    ∃ statements,
      parse "declare float x\nread x\npush 2\nload x\nadd\nload x\nprint\nload x\nstore y" =
        .ok statements ∧
      (replay ⟨{}, .typed, .plain⟩ (statements.take 9) .empty).builder.listing.registers.length = 9 ∧
      ∃ body, Assembly.readBody? ((replay ⟨{}, .typed, .plain⟩ (statements.take 9)
          .empty).builder.listing.lines.map (Line.spell .typed)) = some body ∧
        Assembly.Linear body [.register 9, .register 5] := by
  have parsed :
      parse "declare float x\nread x\npush 2\nload x\nadd\nload x\nprint\nload x\nstore y" =
        .ok [⟨1, .declare "float" "x"⟩, ⟨2, .read "x"⟩, ⟨3, .pushInteger "2"⟩, ⟨4, .load "x"⟩,
          ⟨5, .arithmetic .add⟩, ⟨6, .load "x"⟩, ⟨7, .print⟩, ⟨8, .load "x"⟩, ⟨9, .store "y"⟩] := by
    decide +kernel
  refine ⟨_, parsed, by decide, ?_⟩
  exact operands_used_once parsed ⟨{}, .typed, .plain⟩ .typed 9 _ (.inl rfl) (by decide)

end Compile

end Stackline
