import Mathlib
import Stackline.Proofs.Builder.Closure
import Stackline.Proofs.Builder.Typing
import Stackline.Proofs.Compile.Acceptance

/-!
# What is refused changes nothing

Whatever state a builder is in, a request either takes its steps or leaves the builder as it
was, and it fails for an unknown type or an undeclared variable only. Carrying an operand to a
kind never fails. An act takes three registers at most, so that registers do not wrap around as
long as a few are left. Nothing is assumed of the state: its stack, variables, texts and lines
need not have been built by requests.
-/

namespace Stackline

open Stackline.Code
open Stackline.Script (typeNames)

/-! ### Registers -/

namespace Code.Listing

variable {α : Type}

/-- Lines were added that take the next registers, one after the other. -/
structure HandsOut (count : Nat) (before after : Listing α) : Prop where
  registers : after.registers = before.registers ++
    (List.range count).map fun offset => before.next + UInt32.ofNat offset
  next : after.next = before.next + UInt32.ofNat count

theorem HandsOut.refl {listing : Listing α} : HandsOut 0 listing listing :=
  ⟨by simp, by simp⟩

theorem HandsOut.trans {first second : Nat} {before middle after : Listing α}
    (left : HandsOut first before middle) (right : HandsOut second middle after) :
    HandsOut (first + second) before after := by
  constructor
  · rw [right.registers, left.registers, left.next, List.append_assoc, List.range_add,
      List.map_append, List.map_map]
    simp [Function.comp_def, UInt32.ofNat_add, UInt32.add_assoc]
  · rw [right.next, left.next, UInt32.ofNat_add, UInt32.add_assoc]

theorem handsOut_addValue (listing : Listing α) (content : α) :
    HandsOut 1 listing (listing.addValue content).2 :=
  ⟨by simp [registers, addValue, Line.register?], rfl⟩

theorem handsOut_addEffect (listing : Listing α) (content : α) :
    HandsOut 0 listing (listing.addEffect content) :=
  ⟨by simp [registers, addEffect, Line.register?], by simp [addEffect]⟩

/-- Registers that do not wrap around are numbered from the next one. -/
theorem HandsOut.numbered {count : Nat} {before after : Listing α}
    (handsOut : HandsOut count before after) (room : before.next.toNat + count < 2 ^ 32) :
    after.registers.map UInt32.toNat =
        before.registers.map UInt32.toNat ++ List.range' before.next.toNat count ∧
      after.next.toNat = before.next.toNat + count := by
  have unwrapped {offset : Nat} (bound : offset ≤ count) :
      (before.next + UInt32.ofNat offset).toNat = before.next.toNat + offset := by
    rw [UInt32.toNat_add, UInt32.toNat_ofNat_of_lt' (by simp only [UInt32.size]; omega)]
    exact Nat.mod_eq_of_lt (by omega)
  refine ⟨?_, by rw [handsOut.next, unwrapped le_rfl]⟩
  rw [handsOut.registers, List.map_append, List.map_map, List.range'_eq_map_range]
  congr 1
  apply List.map_congr_left
  intro offset member
  exact unwrapped (List.mem_range.1 member).le

end Code.Listing

open Code.Listing

/-- Carrying an operand takes one register at most. -/
theorem Builder.Carries.handsOut {before after : Builder} {operand value : Operand} {target : Kind}
    (carried : Carries before operand target value after) :
    ∃ count ≤ 1, HandsOut count before.listing after.listing := by
  cases carried with
  | kept => exact ⟨0, Nat.zero_le _, .refl⟩
  | converted _ => exact ⟨1, le_rfl, handsOut_addValue _ _⟩

namespace Command

open Builder

/-- The most registers that a command takes. -/
def reach : Command → Nat
  | .print => 2
  | .arithmetic _ => 3
  | .pushInteger _ => 0
  | .pushReal _ => 0
  | _ => 1

/-- Each step takes no more registers than its command can. -/
theorem Step.handsOut {command : Command} {before after : Builder}
    (step : Step command before after) :
    ∃ count ≤ command.reach, HandsOut count before.listing after.listing := by
  cases step with
  | declare => exact ⟨1, le_rfl, handsOut_addValue _ _⟩
  | declareNamed _ => exact ⟨1, le_rfl, handsOut_addValue _ _⟩
  | load _ => exact ⟨1, le_rfl, handsOut_addValue _ _⟩
  | store _ _ carried =>
    obtain ⟨count, bound, carriedOut⟩ := carried.handsOut
    exact ⟨count, bound, carriedOut.trans (handsOut_addEffect _ _)⟩
  | read _ => exact ⟨1, le_rfl, handsOut_addValue _ _⟩
  | write => exact ⟨1, le_rfl, handsOut_addValue _ _⟩
  | print _ carried =>
    obtain ⟨count, bound, carriedOut⟩ := carried.handsOut
    exact ⟨count + 1, Nat.succ_le_succ bound, carriedOut.trans (handsOut_addValue _ _)⟩
  | arithmetic _ leftCarried rightCarried =>
    obtain ⟨left, leftBound, leftOut⟩ := leftCarried.handsOut
    obtain ⟨right, rightBound, rightOut⟩ := rightCarried.handsOut
    have carriedOut := leftOut.trans rightOut
    exact ⟨left + right + 1, by simp only [reach]; omega,
      carriedOut.trans (handsOut_addValue _ _)⟩
  | _ => exact ⟨0, Nat.zero_le _, .refl⟩

/-- A command that takes a step is not refused. -/
theorem Step.not_refused {command : Command} {before after : Builder} {failure : BuildError}
    (step : Step command before after) : ¬Refused command before failure := by
  intro refused
  cases refused with
  | unknownType unnamed =>
    cases step with
    | declareNamed named => cases named.symm.trans unnamed
  | unknownVariable needs unbound =>
    have known := step.needed needs
    simp [unbound] at known

end Command

/-! ### Acts -/

/-- Something that can be done with a builder: a request, or to carry an operand to a kind. -/
inductive Act where
  | ask (request : Request)
  | convert (operand : Operand) (target : Kind)
  deriving DecidableEq, Repr

namespace Act

open Builder

/-- The failure of an act, if it fails, and the state that it leaves behind. -/
def result (tracing : Tracing) : Act → Builder → Option BuildError × Builder
  | .ask request, builder =>
    let performance := request.submit tracing builder
    (performance.failure, performance.builder)
  | .convert operand target, builder =>
    match Builder.convert operand target builder with
    | .ok _ after => (none, after)
    | .error failure after => (some failure, after)

/-- The variable that an act cannot do without. -/
def needed? : Act → Option String
  | .ask (.single command) => command.needed?
  | .ask (.writeVariable name) => some name
  | .convert _ _ => none

/-- Why an act fails in a state. -/
inductive Fails (before : Builder) : Act → BuildError → Prop where
  | unknownType {type name} (unknown : type ∉ typeNames) :
      Fails before (.ask (.single (.declareNamed type name))) (.unknownType type)
  | unknownVariable {act : Act} {name} (needs : act.needed? = some name)
      (undeclared : before.slot? name = none) : Fails before act (.unknownVariable name)

/-- There is at most one reason to fail. -/
theorem Fails.unique {before : Builder} {act : Act} {failure other : BuildError}
    (first : Fails before act failure) (second : Fails before act other) : failure = other := by
  cases first with
  | unknownType _ =>
    cases second with
    | unknownType _ => rfl
    | unknownVariable needs _ => cases needs
  | unknownVariable needs _ =>
    cases second with
    | unknownType _ => cases needs
    | unknownVariable alsoNeeds _ =>
      cases needs.symm.trans alsoNeeds
      rfl

/-- What an act comes to: it fails and changes nothing, or it has no reason to fail and takes
three registers at most. -/
inductive Ends (act : Act) (before : Builder) : Option BuildError × Builder → Prop where
  | failed {failure} (fails : act.Fails before failure) : Ends act before (some failure, before)
  | done {after count} (fine : ∀ failure, ¬act.Fails before failure) (few : count ≤ 3)
      (handsOut : HandsOut count before.listing after.listing) : Ends act before (none, after)

/-- A single command is refused for the reasons for which asking for it fails. -/
theorem fails_single_iff {command : Command} {before : Builder} {failure : BuildError} :
    Fails before (.ask (.single command)) failure ↔ command.Refused before failure := by
  constructor
  · intro fails
    cases fails with
    | unknownType unknown =>
      refine .unknownType (Option.not_isSome_iff_eq_none.1 ?_)
      rwa [Compile.named?_isSome]
    | unknownVariable needed undeclared => exact .unknownVariable needed undeclared
  · intro refused
    cases refused with
    | unknownType unnamed =>
      refine .unknownType ?_
      rw [← Compile.named?_isSome, unnamed]
      simp
    | unknownVariable needed undeclared => exact .unknownVariable needed undeclared

theorem ends_single (tracing : Tracing) (command : Command) (before : Builder) :
    Ends (.ask (.single command)) before (result tracing (.ask (.single command)) before) := by
  obtain ⟨failure, builder⟩ := Request.submit_single tracing command before
  simp only [result, failure, builder]
  rcases Command.perform_cases tracing command before with ⟨accepted, step⟩ |
    ⟨_, failed, refused, unchanged⟩
  · rw [accepted]
    obtain ⟨count, bound, handsOut⟩ := step.handsOut
    have reach : command.reach ≤ 3 := by cases command <;> simp [Command.reach]
    exact .done (fun _ fails => step.not_refused (fails_single_iff.1 fails)) (bound.trans reach)
      handsOut
  · rw [failed, unchanged]
    exact .failed (fails_single_iff.2 refused)

theorem ends_writeVariable (tracing : Tracing) (name : String) (before : Builder) :
    Ends (.ask (.writeVariable name)) before
      (result tracing (.ask (.writeVariable name)) before) := by
  have performed :=
    Command.performAll_performed tracing (Compile.commands (.writeVariable name)) before
  simp only [result, Request.submit, Request.commands]
  generalize Command.performAll tracing (Compile.commands (.writeVariable name)) before =
    performance at performed ⊢
  cases performed with
  | done accepted run =>
    cases run with
    | step load others =>
      cases others with
      | step print nothing =>
        cases nothing
        obtain ⟨first, firstBound, loaded⟩ := load.handsOut
        obtain ⟨second, secondBound, printed⟩ := print.handsOut
        simp only [Command.reach] at firstBound secondBound
        rw [accepted]
        refine .done ?_ (by omega) (loaded.trans printed)
        rintro failure (_ | ⟨needs, undeclared⟩)
        exact load.not_refused (.unknownVariable needs undeclared)
  | stopped failed split run refusal =>
    obtain rfl := Compile.eq_nil_of_refused split refusal
    cases split
    cases refusal with
    | unknownVariable needs undeclared =>
      rw [failed]
      cases run
      exact .failed (.unknownVariable needs undeclared)

/-- Carrying an operand to a kind never fails. -/
theorem ends_convert (tracing : Tracing) (operand : Operand) (target : Kind) (before : Builder) :
    Ends (.convert operand target) before (result tracing (.convert operand target) before) := by
  obtain ⟨value, after, run, carried⟩ := convert_cases operand target before
  obtain ⟨count, bound, handsOut⟩ := carried.handsOut
  simp only [result, run]
  refine .done ?_ (bound.trans (by decide)) handsOut
  rintro failure (_ | ⟨needs, _⟩)
  cases needs

/-- Every act fails for a reason and changes nothing, or is done. -/
theorem result_ends (tracing : Tracing) (act : Act) (before : Builder) :
    Ends act before (act.result tracing before) := by
  cases act with
  | ask request =>
    cases request with
    | single command => exact ends_single tracing command before
    | writeVariable name => exact ends_writeVariable tracing name before
  | convert operand target => exact ends_convert tracing operand target before

/-- Arithmetic that finds too few operands is not even seen in a trace. -/
theorem submit_arithmetic_short (tracing : Tracing) (operator : Arithmetic) {before : Builder}
    (short : before.stack.length < 2) :
    Request.submit tracing (.single (.arithmetic operator)) before = ⟨"", none, before⟩ := by
  have untouched : (Command.arithmetic operator).run before = .ok () before := by
    have outcome := Command.run_outcome (.arithmetic operator) before
    generalize (Command.arithmetic operator).run before = found at outcome ⊢
    cases outcome with
    | done step =>
      cases step with
      | arithmeticNothing _ => rfl
      | arithmetic top _ _ => simp [top] at short
    | refused refusal =>
      cases refusal with
      | unknownVariable needs _ => cases needs
  simp [Request.submit, Request.commands, Command.performAll, Command.perform, untouched,
    Command.trace, Tracing.appended, Listing.since, Command.arity, Nat.not_le.2 short]

/-- An act fails exactly for an unknown type or an undeclared variable, and then changes nothing
at all; no conversion is ever missing. It hands out the registers from the next one on, without
wrapping around, and arithmetic on fewer than two operands does nothing. -/
theorem failing_acts_change_nothing (tracing : Tracing) (act : Act) (before : Builder)
    (room : before.listing.next.toNat < 2 ^ 32 - 4) :
    (∀ failure, (act.result tracing before).1 = some failure ↔ act.Fails before failure) ∧
      (∀ source target, (act.result tracing before).1 ≠ some (.noConversion source target)) ∧
      ((act.result tracing before).1 ≠ none → (act.result tracing before).2 = before) ∧
      (∃ count, (act.result tracing before).2.listing.registers.map UInt32.toNat =
          before.listing.registers.map UInt32.toNat ++
            List.range' before.listing.next.toNat count ∧
        (act.result tracing before).2.listing.next.toNat = before.listing.next.toNat + count) ∧
      ∀ operator, act = .ask (.single (.arithmetic operator)) → before.stack.length < 2 →
        Request.submit tracing (.single (.arithmetic operator)) before = ⟨"", none, before⟩ := by
  have ends := result_ends tracing act before
  generalize act.result tracing before = found at ends ⊢
  have idle (operator : Arithmetic) (short : before.stack.length < 2) :=
    submit_arithmetic_short tracing operator short
  cases ends with
  | failed fails =>
    refine ⟨fun failure => ⟨?_, fun other => congrArg some (fails.unique other)⟩, ?_, fun _ => rfl,
      ⟨0, by simp, rfl⟩, fun operator _ => idle operator⟩
    · rintro ⟨⟩
      exact fails
    · rintro source target ⟨⟩
      cases fails
  | done fine few handsOut =>
    exact ⟨fun failure => ⟨nofun, fun fails => absurd fails (fine failure)⟩, nofun,
      fun failed => absurd rfl failed, ⟨_, handsOut.numbered (by omega)⟩,
      fun operator _ => idle operator⟩

/-- A state to which no request leads, with the last few registers left: its texts and functions
are there twice, no text has the number of its place, a variable has no line, and an operand is
no literal. -/
def strained : Builder where
  listing := ⟨[.effect (.allocate .i32)], 4294967291⟩
  pool := ⟨["%d", "%d"], [("%d", 7)]⟩
  externals := ⟨[.scanf, .scanf]⟩
  stack := [.constant "?" .i64]
  slots := [("x", ⟨0, .f32⟩)]

theorem failing_acts_change_nothing_strained :
    strained.listing.next.toNat = 2 ^ 32 - 5 ∧
      (ask (.writeVariable "y")).result ⟨⟨true, true⟩, .typed, .plain⟩ strained =
        (some (.unknownVariable "y"), strained) ∧
      ∃ count,
        ((ask (.writeVariable "x")).result ⟨⟨true, true⟩, .typed, .plain⟩
            strained).2.listing.registers.map UInt32.toNat =
          List.range' (2 ^ 32 - 5) count := by
  have room : strained.listing.next.toNat < 2 ^ 32 - 4 := by decide
  obtain ⟨fails, _, unchanged, _⟩ :=
    failing_acts_change_nothing ⟨⟨true, true⟩, .typed, .plain⟩ (ask (.writeVariable "y"))
      strained room
  obtain ⟨_, _, _, ⟨count, registers, _⟩, _⟩ :=
    failing_acts_change_nothing ⟨⟨true, true⟩, .typed, .plain⟩ (ask (.writeVariable "x"))
      strained room
  have failed := (fails (.unknownVariable "y")).2 (.unknownVariable rfl (by decide))
  exact ⟨by decide, Prod.ext failed (unchanged (by simp [failed])), count, registers⟩

end Act

end Stackline
