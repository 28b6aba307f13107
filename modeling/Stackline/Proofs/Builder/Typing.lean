import Mathlib
import Stackline.Proofs.Assembly.Typing
import Stackline.Proofs.Builder.Run
import Stackline.Proofs.Script.Token

/-!
# Builders keep bodies well-typed

The invariant behind every body: its lines fit together, the operands on the stack
have the kinds they claim, and variables stand for storage of their kinds. Each part
of a step keeps it, so does each step, and so does every run.
-/

namespace Stackline

open Stackline.Code
open Stackline.Number
open Stackline.Assembly (Value Pointer Format)

/-! ### Numbering -/

namespace Code.Listing

variable {α : Type}

/-- The registers that the lines fill, in order. -/
def registers (listing : Listing α) : List Register :=
  listing.lines.filterMap Line.register?

/-- Registers are numbered from one without a gap, up to the width of a register. -/
structure Numbered (listing : Listing α) : Prop where
  registers : listing.registers =
    (List.range' 1 listing.registers.length).map UInt32.ofNat
  next : listing.next = UInt32.ofNat (listing.registers.length + 1)

theorem numbered_empty : (empty : Listing α).Numbered :=
  ⟨rfl, rfl⟩

theorem Numbered.addValue {listing : Listing α} (numbered : listing.Numbered) (content : α) :
    (listing.addValue content).2.Numbered := by
  have registers : (listing.addValue content).2.registers =
      listing.registers ++ [listing.next] := by
    simp [Listing.registers, Listing.addValue, Line.register?]
  constructor
  · rw [registers, List.length_append, List.length_singleton, List.range'_concat,
      List.map_append, ← numbered.registers, numbered.next]
    simp [Nat.add_comm]
  · rw [registers, List.length_append, List.length_singleton]
    simp [Listing.addValue, numbered.next]

theorem Numbered.addEffect {listing : Listing α} (numbered : listing.Numbered) (content : α) :
    (listing.addEffect content).Numbered := by
  have registers : (listing.addEffect content).registers = listing.registers := by
    simp [Listing.registers, Listing.addEffect, Line.register?]
  exact ⟨by rw [registers]; exact numbered.registers, by rw [registers]; exact numbered.next⟩

/-- As long as registers suffice, the next one is the one behind those in use. -/
theorem Numbered.toNat_next {listing : Listing α} (numbered : listing.Numbered)
    (small : listing.registers.length < 2 ^ 32 - 1) :
    listing.next.toNat = listing.registers.length + 1 := by
  rw [numbered.next]
  exact UInt32.toNat_ofNat_of_lt' (by simp only [UInt32.size]; omega)

end Code.Listing

/-- No value is printed at the narrow floating kind. -/
theorem Code.Kind.printed_ne (kind : Kind) : kind.printed ≠ .f32 := by
  cases kind <;> decide

/-! ### The invariant -/

namespace Builder

/-- What the texts of the lines so far say. -/
def body (pointers : Pointers) (builder : Builder) : List Assembly.Line :=
  builder.listing.lines.map (.of pointers)

theorem Extends.body_subset {before after : Builder} (grown : before.Extends after)
    (pointers : Pointers) : before.body pointers ⊆ after.body pointers :=
  (grown.lines.map _).subset

theorem Extends.registers_le {before after : Builder} (grown : before.Extends after) :
    before.listing.registers.length ≤ after.listing.registers.length :=
  (grown.lines.filterMap _).length_le

/-- A builder whose lines fit together, whose operands and variables fit the lines, and
whose texts are found under their numbers. -/
structure WellTyped (pointers : Pointers) (builder : Builder) : Prop where
  numbered : builder.listing.Numbered
  pool : builder.pool.Indexed
  body : Assembly.WellTyped pointers builder.pool.texts (builder.body pointers)
  stack : ∀ operand ∈ builder.stack,
    (Value.of operand).HasKind (builder.body pointers) operand.kind
  slots : ∀ entry ∈ builder.slots,
    (Pointer.of pointers entry.2.kind entry.2.address).PointsTo pointers (builder.body pointers)
      entry.2.kind

variable {pointers : Pointers}

theorem wellTyped_empty : WellTyped pointers .empty :=
  ⟨Listing.numbered_empty, Pool.indexed_empty, .nil, (fun _ none => by cases none),
    (fun _ none => by cases none)⟩

theorem body_withValue (builder : Builder) (instruction : Instruction) :
    (builder.withValue instruction).body pointers =
      builder.body pointers ++ [.of pointers (.value builder.listing.next instruction)] := by
  simp [body, withValue, Listing.addValue]

theorem body_withEffect (builder : Builder) (instruction : Instruction) :
    (builder.withEffect instruction).body pointers =
      builder.body pointers ++ [.of pointers (.effect instruction)] := by
  simp [body, withEffect, Listing.addEffect]

/-- The line that was added last fills the register it took. -/
theorem defines_withValue {builder : Builder} {instruction : Instruction} {held : Assembly.Held}
    (holds : (Assembly.Instruction.of pointers instruction).held? = some held) :
    Assembly.Defines ((builder.withValue instruction).body pointers)
      builder.listing.next.toNat held := by
  rw [body_withValue]
  exact ⟨_, List.mem_append_right _ (.head _), rfl, holds⟩

theorem WellTyped.withValue {builder : Builder} {instruction : Instruction}
    (wellTyped : builder.WellTyped pointers)
    (fits : (Assembly.Instruction.of pointers instruction).WellTyped pointers
      builder.pool.texts (builder.body pointers))
    (holds : (Assembly.Instruction.of pointers instruction).held?.isSome) :
    (builder.withValue instruction).WellTyped pointers := by
  have grown := (grows_withValue builder instruction).body_subset pointers
  refine ⟨wellTyped.numbered.addValue instruction, wellTyped.pool, ?_, ?_, ?_⟩
  · rw [body_withValue]
    exact wellTyped.body.concat ⟨fits, holds.symm⟩
  · exact fun operand member => (wellTyped.stack operand member).mono grown
  · exact fun entry member => (wellTyped.slots entry member).mono grown

theorem WellTyped.withEffect {builder : Builder} {instruction : Instruction}
    (wellTyped : builder.WellTyped pointers)
    (fits : (Assembly.Instruction.of pointers instruction).WellTyped pointers
      builder.pool.texts (builder.body pointers))
    (holds : (Assembly.Instruction.of pointers instruction).held? = none) :
    (builder.withEffect instruction).WellTyped pointers := by
  have grown := (grows_withEffect builder instruction).body_subset pointers
  refine ⟨wellTyped.numbered.addEffect instruction, wellTyped.pool, ?_, ?_, ?_⟩
  · rw [body_withEffect]
    exact wellTyped.body.concat ⟨fits, by simp [Assembly.Line.of, holds]⟩
  · exact fun operand member => (wellTyped.stack operand member).mono grown
  · exact fun entry member => (wellTyped.slots entry member).mono grown

theorem WellTyped.withStack {builder : Builder} {stack : List Operand}
    (wellTyped : builder.WellTyped pointers)
    (fits : ∀ operand ∈ stack, (Value.of operand).HasKind (builder.body pointers) operand.kind) :
    (builder.withStack stack).WellTyped pointers :=
  ⟨wellTyped.numbered, wellTyped.pool, wellTyped.body, fits, wellTyped.slots⟩

theorem WellTyped.withOperand {builder : Builder} {operand : Operand}
    (wellTyped : builder.WellTyped pointers)
    (fits : (Value.of operand).HasKind (builder.body pointers) operand.kind) :
    (builder.withOperand operand).WellTyped pointers :=
  wellTyped.withStack (List.forall_mem_cons.2 ⟨fits, wellTyped.stack⟩)

theorem WellTyped.withSlot {builder : Builder} {name : String} {slot : Slot}
    (wellTyped : builder.WellTyped pointers)
    (fits : (Pointer.of pointers slot.kind slot.address).PointsTo pointers
      (builder.body pointers) slot.kind) :
    (builder.withSlot name slot).WellTyped pointers :=
  ⟨wellTyped.numbered, wellTyped.pool, wellTyped.body, wellTyped.stack,
    List.forall_mem_cons.2 ⟨fits, wellTyped.slots⟩⟩

theorem WellTyped.withExternal {builder : Builder} (wellTyped : builder.WellTyped pointers)
    (external : External) : (builder.withExternal external).WellTyped pointers :=
  ⟨wellTyped.numbered, wellTyped.pool, wellTyped.body, wellTyped.stack, wellTyped.slots⟩

theorem WellTyped.withText {builder : Builder} (wellTyped : builder.WellTyped pointers)
    (text : String) : (builder.withText text).WellTyped pointers :=
  ⟨wellTyped.numbered, wellTyped.pool.intern text,
    wellTyped.body.mono (builder.pool.intern_grows text), wellTyped.stack, wellTyped.slots⟩

/-- A call keeps the invariant if it fits once its format is in the pool. -/
theorem WellTyped.withCall {builder : Builder} {external : External} {text : String}
    {argument : Option CallArgument} (wellTyped : builder.WellTyped pointers)
    (fits : ∀ format, format.Names (builder.pool.intern text).2.texts text →
      Assembly.Instruction.WellTyped pointers (builder.pool.intern text).2.texts
        (builder.body pointers) (.call external format (argument.map (.of pointers)))) :
    (builder.withCall external text argument).WellTyped pointers :=
  (wellTyped.withText text).withValue
    (fits _ (Format.names_of (Pool.names_intern wellTyped.pool text))) rfl

/-- A carried operand has the kind it was carried to, and carrying keeps the
invariant. -/
theorem Carries.wellTyped {before after : Builder} {operand value : Operand} {target : Kind}
    (carried : Carries before operand target value after) (wellTyped : before.WellTyped pointers)
    (fits : (Value.of operand).HasKind (before.body pointers) operand.kind) :
    after.WellTyped pointers ∧ (Value.of value).HasKind (after.body pointers) target := by
  cases carried with
  | kept => exact ⟨wellTyped, fits⟩
  | converted found =>
    have legal := Conversion.legal_of_between? found
    exact ⟨wellTyped.withValue (.convert fits legal) rfl, defines_withValue rfl⟩

theorem WellTyped.slot {builder : Builder} {name : String} {slot : Slot}
    (wellTyped : builder.WellTyped pointers) (found : builder.slot? name = some slot) :
    (Pointer.of pointers slot.kind slot.address).PointsTo pointers (builder.body pointers)
      slot.kind := by
  obtain ⟨before, after, equal, _⟩ := List.lookup_eq_some_iff.1 found
  exact wellTyped.slots (name, slot) (by simp [equal])

end Builder

namespace Command

open Builder

/-- A command that pushes no text but a literal. -/
def Legible : Command → Prop
  | .pushInteger text => Literal .i32 text
  | .pushReal text => Literal .f32 text
  | _ => True

/-- Each step keeps the invariant. -/
theorem Step.wellTyped {pointers : Pointers} {command : Command} {before after : Builder}
    (legible : command.Legible) (step : Step command before after)
    (wellTyped : before.WellTyped pointers) : after.WellTyped pointers := by
  cases step with
  | declare =>
    exact (wellTyped.withValue .allocate rfl).withSlot ⟨by cases pointers <;> rfl, by
      cases pointers <;> exact defines_withValue rfl⟩
  | declareNamed named =>
    exact (wellTyped.withValue .allocate rfl).withSlot ⟨by cases pointers <;> rfl, by
      cases pointers <;> exact defines_withValue rfl⟩
  | load found =>
    exact (wellTyped.withValue (.load (wellTyped.slot found)) rfl).withOperand
      (defines_withValue rfl)
  | storeNothing _ _ => exact wellTyped
  | store found top carried =>
    have fits := wellTyped.stack
    rw [top, List.forall_mem_cons] at fits
    obtain ⟨carriedTyped, hasKind⟩ := carried.wellTyped (wellTyped.withStack fits.2) fits.1
    have address := (wellTyped.slot found).mono (carried.grows.body_subset pointers)
    exact carriedTyped.withEffect (.store hasKind address) rfl
  | read found =>
    exact (wellTyped.withExternal .scanf).withCall fun _ names =>
      .read (wellTyped.slot found) names
  | write => exact (wellTyped.withExternal .printf).withCall fun _ names => .write names
  | printNothing _ => exact wellTyped.withExternal .printf
  | print top carried =>
    have fits := wellTyped.stack
    rw [top, List.forall_mem_cons] at fits
    obtain ⟨carriedTyped, hasKind⟩ :=
      carried.wellTyped ((wellTyped.withExternal .printf).withStack fits.2) fits.1
    rw [← carried.kind_eq] at hasKind
    refine carriedTyped.withCall fun _ names => .print hasKind ?_ names
    rw [carried.kind_eq]
    exact Kind.printed_ne _
  | pushInteger => exact wellTyped.withOperand legible
  | pushReal => exact wellTyped.withOperand legible
  | arithmeticNothing _ => exact wellTyped
  | arithmetic top leftCarried rightCarried =>
    have fits := wellTyped.stack
    rw [top, List.forall_mem_cons, List.forall_mem_cons] at fits
    obtain ⟨secondFits, firstFits, restFit⟩ := fits
    obtain ⟨middleTyped, leftKind⟩ := leftCarried.wellTyped (wellTyped.withStack restFit) firstFits
    obtain ⟨afterTyped, rightKind⟩ :=
      rightCarried.wellTyped middleTyped (secondFits.mono (leftCarried.grows.body_subset pointers))
    rw [← leftCarried.kind_eq] at leftKind rightKind
    have leftFits := leftKind.mono (rightCarried.grows.body_subset pointers)
    exact (afterTyped.withValue (.arithmetic leftFits rightKind rfl) rfl).withOperand
      (defines_withValue rfl)

end Command

namespace Builder

variable {pointers : Pointers}

/-- The lines of a well-typed builder hold no constants but literals. -/
theorem WellTyped.legible {builder : Builder} (wellTyped : builder.WellTyped pointers) :
    ∀ line ∈ builder.listing.lines, line.content.Legible := by
  intro line member
  obtain ⟨earlier, later, equal⟩ := List.append_of_mem member
  have fits := wellTyped.body (earlier.map (.of pointers)) (.of pointers line)
    (later.map (.of pointers)) (by simp [Builder.body, equal])
  cases line <;> exact fits.instruction.legible

/-- The texts of a well-typed builder read back as its body. -/
theorem WellTyped.readBody?_eq {builder : Builder} (wellTyped : builder.WellTyped pointers) :
    Assembly.readBody? (builder.listing.lines.map (Line.spell pointers)) =
      some (builder.body pointers) := by
  have read : ∀ line ∈ builder.listing.lines,
      Assembly.readLine? (line.spell pointers) = some (.of pointers line) :=
    fun line member => Assembly.readLine?_spell (wellTyped.legible line member)
  unfold Assembly.readBody? Builder.body
  generalize builder.listing.lines = lines at read ⊢
  induction lines with
  | nil => rfl
  | cons line rest inductionHypothesis =>
    obtain ⟨head, tail⟩ := List.forall_mem_cons.1 read
    simp [head, inductionHypothesis tail]

/-- As long as registers suffice, they are numbered from one. -/
theorem WellTyped.numbered_body {builder : Builder} (wellTyped : builder.WellTyped pointers)
    (small : builder.listing.registers.length < 2 ^ 32 - 1) :
    (builder.body pointers).filterMap Assembly.Line.result =
        List.range' 1 builder.listing.registers.length ∧
      builder.listing.next.toNat = builder.listing.registers.length + 1 := by
  constructor
  · have results : (builder.body pointers).filterMap Assembly.Line.result =
        builder.listing.registers.map UInt32.toNat := by
      rw [Builder.body, Listing.registers, List.filterMap_map, List.map_filterMap]
      congr 1
      funext line
      cases line <;> rfl
    rw [results]
    conv => lhs; rw [wellTyped.numbered.registers]
    rw [List.map_map]
    refine (List.map_congr_left fun register member => ?_).trans (List.map_id _)
    have bound := List.mem_range'_1.1 member
    exact UInt32.toNat_ofNat_of_lt' (by simp only [UInt32.size]; omega)
  · exact wellTyped.numbered.toNat_next small

end Builder

namespace Compile

open Stackline.Script

/-- The commands of a script push nothing but literals. -/
theorem legible_scriptCommands {statements : List Statement}
    (permitted : ∀ statement ∈ statements, statement.operation.Permitted) :
    ∀ command ∈ scriptCommands statements, command.Legible := by
  intro command member
  obtain ⟨statement, statementMember, commandMember⟩ := List.mem_flatMap.1 member
  have permitted := permitted statement statementMember
  cases operation : statement.operation <;> rw [operation] at commandMember permitted <;>
    simp only [commands, List.mem_cons, List.not_mem_nil, or_false] at commandMember
  case writeVariable => rcases commandMember with rfl | rfl <;> trivial
  all_goals subst commandMember
  case pushInteger => exact permitted.literal_integer
  case pushReal => exact permitted.literal_real
  all_goals trivial

/-- A script builds well-typed bodies only, whether it ends at a statement that fails
or goes on behind it. -/
theorem wellTyped_of_applied {source : String} {statements : List Statement}
    (parsed : parse source = .ok statements) (tracing : Tracing) (pointers : Pointers)
    (count : Nat) {builder : Builder}
    (applied : builder = (replay tracing (statements.take count) .empty).builder ∨
      builder = attempt tracing (statements.take count) .empty) :
    builder.WellTyped pointers := by
  have legible : ∀ command ∈ scriptCommands (statements.take count), command.Legible :=
    legible_scriptCommands fun statement member =>
      permitted_of_parse parsed statement (List.mem_of_mem_take member)
  rcases applied with rfl | rfl
  · obtain ⟨done, isPrefix, run, _⟩ := replay_steps tracing (statements.take count) .empty
    exact run.preserves Command.Step.wellTyped
      (fun command member => legible command (isPrefix.subset member))
      Builder.wellTyped_empty
  · obtain ⟨done, sublist, run⟩ := attempt_steps tracing (statements.take count) .empty
    exact run.preserves Command.Step.wellTyped
      (fun command member => legible command (sublist.subset member))
      Builder.wellTyped_empty

/-- Whatever part of a script is handed to a new builder, the texts of the lines read
back as a well-typed body of single assignment, and the next register is the one
behind those that are filled. -/
theorem typed_single_assignment {source : String} {statements : List Statement}
    (parsed : parse source = .ok statements) (tracing : Tracing) (pointers : Pointers)
    (count : Nat) (builder : Builder)
    (applied : builder = (replay tracing (statements.take count) .empty).builder ∨
      builder = attempt tracing (statements.take count) .empty)
    (small : builder.listing.registers.length < 2 ^ 32 - 1) :
    ∃ body, Assembly.readBody? (builder.listing.lines.map (Line.spell pointers)) = some body ∧
      Assembly.SingleAssignment builder.listing.registers.length body ∧
      Assembly.WellTyped pointers builder.pool.texts body ∧
      builder.listing.next.toNat = builder.listing.registers.length + 1 := by
  have wellTyped := wellTyped_of_applied parsed tracing pointers count applied
  obtain ⟨numbered, next⟩ := wellTyped.numbered_body small
  exact ⟨builder.body pointers, wellTyped.readBody?_eq,
    wellTyped.body.singleAssignment numbered, wellTyped.body, next⟩

/-- A script with an unknown variable in the middle. -/
theorem typed_single_assignment_mixed :
    ∃ statements,
      parse "declare float x\nread x\npush 2\nload x\nload y\nadd\nprint" = .ok statements ∧
      (attempt ⟨{}, .typed, .plain⟩ (statements.take 7) .empty).listing.registers.length = 7 ∧
      ∃ body, Assembly.readBody? ((attempt ⟨{}, .typed, .plain⟩ (statements.take 7)
          .empty).listing.lines.map (Line.spell .untyped)) = some body ∧
        Assembly.SingleAssignment 7 body := by
  have parsed : parse "declare float x\nread x\npush 2\nload x\nload y\nadd\nprint" =
      .ok [⟨1, .declare "float" "x"⟩, ⟨2, .read "x"⟩, ⟨3, .pushInteger "2"⟩, ⟨4, .load "x"⟩,
        ⟨5, .load "y"⟩, ⟨6, .arithmetic .add⟩, ⟨7, .print⟩] := by cbv
  refine ⟨_, parsed, by decide, ?_⟩
  obtain ⟨body, read, assigned, _, _⟩ :=
    typed_single_assignment parsed ⟨{}, .typed, .plain⟩ .untyped 7 _ (.inr rfl) (by decide)
  exact ⟨body, read, assigned⟩

end Compile

end Stackline
