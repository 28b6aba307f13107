import Stackline.Builder.Command
import Stackline.Proofs.Code.Pool

/-!
# What a command can do

`Command.Step` lists every way in which a command succeeds, with the exact state
it leaves behind, and `Command.Refused` every way in which it fails. By
`Command.run_outcome` there is no third way and a failure leaves the builder as it
was. Statements about builders are derived from these relations and never unfold
the commands again.
-/

namespace Stackline

open Stackline.Code

namespace Code

/-- Two kinds without a conversion between them are one kind. -/
theorem Conversion.between?_eq_none_iff {source target : Kind} :
    Conversion.between? source target = none ↔ source = target := by
  cases source <;> cases target <;> decide

/-- The kind at which a value of some kind is printed. -/
def Kind.printed (kind : Kind) : Kind :=
  if kind.family = .floating then Family.floating.widest else kind

end Code

namespace Builder

/-- The state with one more line that takes a register. -/
def withValue (builder : Builder) (instruction : Instruction) : Builder :=
  { builder with listing := (builder.listing.addValue instruction).2 }

/-- The state with one more line that takes none. -/
def withEffect (builder : Builder) (instruction : Instruction) : Builder :=
  { builder with listing := builder.listing.addEffect instruction }

/-- The state with another stack. -/
def withStack (builder : Builder) (stack : List Operand) : Builder :=
  { builder with stack := stack }

/-- The state with one more operand on the stack. -/
def withOperand (builder : Builder) (operand : Operand) : Builder :=
  builder.withStack (operand :: builder.stack)

/-- The state in which a name stands for some storage. -/
def withSlot (builder : Builder) (name : String) (slot : Slot) : Builder :=
  { builder with slots := (name, slot) :: builder.slots }

/-- The state in which an external function is called for. -/
def withExternal (builder : Builder) (external : External) : Builder :=
  { builder with externals := builder.externals.require external }

/-- The state with a text in the pool. -/
def withText (builder : Builder) (text : String) : Builder :=
  { builder with pool := (builder.pool.intern text).2 }

/-- The state with one more call, whose format is in the pool. -/
def withCall (builder : Builder) (external : External) (format : String)
    (argument : Option CallArgument) : Builder :=
  (builder.withText format).withValue
    (.call external (builder.pool.intern format).1 argument)

/-- Carrying an operand to a kind: an operand of that kind is kept, any other is
converted by one more line. -/
inductive Carries : Builder → Operand → Kind → Operand → Builder → Prop where
  | kept {before operand} : Carries before operand operand.kind operand before
  | converted {before operand target conversion}
      (found : Conversion.between? operand.kind target = some conversion) :
      Carries before operand target (.register before.listing.next target)
        (before.withValue (.convert conversion operand target))

/-- A carried operand has the kind it was carried to. -/
theorem Carries.kind_eq {before after : Builder} {operand value : Operand} {target : Kind}
    (carried : Carries before operand target value after) : value.kind = target := by
  cases carried <;> rfl

/-- Carrying an operand leaves the variables alone. -/
theorem Carries.slot?_eq {before after : Builder} {operand value : Operand} {target : Kind}
    (carried : Carries before operand target value after) (name : String) :
    after.slot? name = before.slot? name := by
  cases carried <;> rfl

/-- Carrying an operand stores no text. -/
theorem Carries.pool_eq {before after : Builder} {operand value : Operand} {target : Kind}
    (carried : Carries before operand target value after) : after.pool = before.pool := by
  cases carried <;> rfl

/-- Nothing is taken back: lines and texts are only added. -/
structure Extends (before after : Builder) : Prop where
  lines : before.listing.lines <+: after.listing.lines
  texts : before.pool.texts <+: after.pool.texts

/-- Changes to the stack, the variables or the external functions add nothing. -/
theorem Extends.of_eq {before after : Builder} (listing : before.listing = after.listing)
    (pool : before.pool = after.pool) : before.Extends after :=
  ⟨listing ▸ List.prefix_refl _, pool ▸ List.prefix_refl _⟩

theorem Extends.trans {before middle after : Builder} (first : before.Extends middle)
    (second : middle.Extends after) : before.Extends after :=
  ⟨first.lines.trans second.lines, first.texts.trans second.texts⟩

theorem grows_withValue (builder : Builder) (instruction : Instruction) :
    builder.Extends (builder.withValue instruction) :=
  ⟨List.prefix_append _ _, List.prefix_refl _⟩

theorem grows_withEffect (builder : Builder) (instruction : Instruction) :
    builder.Extends (builder.withEffect instruction) :=
  ⟨List.prefix_append _ _, List.prefix_refl _⟩

theorem grows_withStack (builder : Builder) (stack : List Operand) :
    builder.Extends (builder.withStack stack) :=
  .of_eq rfl rfl

theorem grows_withExternal (builder : Builder) (external : External) :
    builder.Extends (builder.withExternal external) :=
  .of_eq rfl rfl

theorem grows_withText (builder : Builder) (text : String) :
    builder.Extends (builder.withText text) :=
  ⟨List.prefix_refl _, builder.pool.intern_grows text⟩

theorem grows_withCall (builder : Builder) (external : External) (format : String)
    (argument : Option CallArgument) :
    builder.Extends (builder.withCall external format argument) :=
  (grows_withText builder format).trans (grows_withValue _ _)

theorem Carries.grows {before after : Builder} {operand value : Operand} {target : Kind}
    (carried : Carries before operand target value after) : before.Extends after := by
  cases carried with
  | kept => exact .of_eq rfl rfl
  | converted _ => exact grows_withValue _ _

/-- Every operand can be carried to every kind. -/
theorem convert_cases (operand : Operand) (target : Kind) (before : Builder) :
    ∃ value after, convert operand target before = .ok value after ∧
      Carries before operand target value after := by
  by_cases same : operand.kind = target
  · subst same
    refine ⟨operand, before, ?_, .kept⟩
    simp [convert, pure, EStateM.pure]
  · cases found : Conversion.between? operand.kind target with
    | none => exact absurd (Conversion.between?_eq_none_iff.1 found) same
    | some conversion =>
      refine ⟨_, _, ?_, .converted found⟩
      simp only [convert, same, found]
      rfl

/-- Any two operands can be carried to their common kind. -/
theorem reconcile_cases (operator : Arithmetic) (first second : Operand) (before : Builder) :
    ∃ left right middle after, reconcile operator first second before = .ok (left, right) after ∧
      Carries before first (commonKind first.kind second.kind) left middle ∧
      Carries middle second (commonKind first.kind second.kind) right after := by
  obtain ⟨left, middle, leftRun, leftCarried⟩ :=
    convert_cases first (commonKind first.kind second.kind) before
  obtain ⟨right, after, rightRun, rightCarried⟩ :=
    convert_cases second (commonKind first.kind second.kind) middle
  refine ⟨left, right, middle, after, ?_, leftCarried, rightCarried⟩
  have agree : left.kind = right.kind := leftCarried.kind_eq.trans rightCarried.kind_eq.symm
  simp [reconcile, bind, EStateM.bind, leftRun, rightRun, agree, pure, EStateM.pure]

/-- A name is found, or the builder is left alone. -/
theorem find_eq (name : String) (before : Builder) :
    find name before = match before.slot? name with
      | some slot => .ok slot before
      | none => .error (.unknownVariable name) before := rfl

/-- A call never fails. -/
theorem call_eq (external : External) (format : String) (argument : Option CallArgument)
    (before : Builder) :
    call external format argument before = .ok () (before.withCall external format argument) := rfl

end Builder

namespace Command

open Builder

/-- How a command succeeds: the states before and after it. -/
inductive Step : Command → Builder → Builder → Prop where
  | declare {before kind name} :
      Step (.declare kind name) before
        ((before.withValue (.allocate kind)).withSlot name ⟨before.listing.next, kind⟩)
  | declareNamed {before type name kind} (named : Kind.named? type = some kind) :
      Step (.declareNamed type name) before
        ((before.withValue (.allocate kind)).withSlot name ⟨before.listing.next, kind⟩)
  | load {before name slot} (found : before.slot? name = some slot) :
      Step (.load name) before
        ((before.withValue (.load slot.kind slot.address)).withOperand
          (.register before.listing.next slot.kind))
  | storeNothing {before name slot} (found : before.slot? name = some slot)
      (empty : before.stack = []) : Step (.store name) before before
  | store {before name slot operand rest value after} (found : before.slot? name = some slot)
      (top : before.stack = operand :: rest)
      (carried : Carries (before.withStack rest) operand slot.kind value after) :
      Step (.store name) before (after.withEffect (.store slot.kind value slot.address))
  | read {before name slot} (found : before.slot? name = some slot) :
      Step (.read name) before ((before.withExternal .scanf).withCall .scanf slot.kind.pattern
        (some (.storage slot.kind slot.address)))
  | write {before text} :
      Step (.write text) before ((before.withExternal .printf).withCall .printf text none)
  | printNothing {before} (empty : before.stack = []) :
      Step .print before (before.withExternal .printf)
  | print {before operand rest value after} (top : before.stack = operand :: rest)
      (carried : Carries ((before.withExternal .printf).withStack rest) operand
        operand.kind.printed value after) :
      Step .print before (after.withCall .printf value.kind.pattern (some (.value value)))
  | pushInteger {before text} :
      Step (.pushInteger text) before (before.withOperand (.constant text .i32))
  | pushReal {before text} :
      Step (.pushReal text) before (before.withOperand (.constant text .f32))
  | arithmeticNothing {before operator} (short : before.stack.length < 2) :
      Step (.arithmetic operator) before before
  | arithmetic {before operator first second rest left middle right after}
      (top : before.stack = second :: first :: rest)
      (leftCarried : Carries (before.withStack rest) first
        (commonKind first.kind second.kind) left middle)
      (rightCarried : Carries middle second (commonKind first.kind second.kind) right after) :
      Step (.arithmetic operator) before
        ((after.withValue (.arithmetic operator left.kind left right)).withOperand
          (.register after.listing.next left.kind))

/-- The variable that a command cannot do without. -/
def needed? : Command → Option String
  | .load name => some name
  | .store name => some name
  | .read name => some name
  | _ => none

/-- How a command fails. -/
inductive Refused : Command → Builder → BuildError → Prop where
  | unknownType {before type name} (unnamed : Kind.named? type = none) :
      Refused (.declareNamed type name) before (.unknownType type)
  | unknownVariable {before command name} (needs : needed? command = some name)
      (unbound : before.slot? name = none) :
      Refused command before (.unknownVariable name)

/-- What a command comes to: a step, or a refusal that changes nothing. -/
inductive Outcome (command : Command) (before : Builder) :
    EStateM.Result BuildError Builder Unit → Prop where
  | done {after} (step : Step command before after) : Outcome command before (.ok () after)
  | refused {failure} (refusal : Refused command before failure) :
      Outcome command before (.error failure before)

theorem load_outcome (name : String) (before : Builder) :
    Outcome (.load name) before (Builder.load name before) := by
  cases found : before.slot? name with
  | none =>
    have result : Builder.load name before = .error (.unknownVariable name) before := by
      simp [Builder.load, bind, EStateM.bind, find_eq, found]
    exact result ▸ .refused (.unknownVariable rfl found)
  | some slot =>
    have result : Builder.load name before =
        .ok () ((before.withValue (.load slot.kind slot.address)).withOperand
          (.register before.listing.next slot.kind)) := by
      simp only [Builder.load, bind, EStateM.bind, find_eq, found]
      rfl
    exact result ▸ .done (.load found)

theorem store_outcome (name : String) (before : Builder) :
    Outcome (.store name) before (Builder.store name before) := by
  cases found : before.slot? name with
  | none =>
    have result : Builder.store name before = .error (.unknownVariable name) before := by
      simp [Builder.store, bind, EStateM.bind, find_eq, found]
    exact result ▸ .refused (.unknownVariable rfl found)
  | some slot =>
    cases top : before.stack with
    | nil =>
      have result : Builder.store name before = .ok () before := by
        simp [Builder.store, bind, EStateM.bind, find_eq, found, pop?, top, pure, EStateM.pure]
      exact result ▸ .done (.storeNothing found top)
    | cons operand rest =>
      obtain ⟨value, after, run, carried⟩ :=
        convert_cases operand slot.kind (before.withStack rest)
      have result : Builder.store name before =
          .ok () (after.withEffect (.store slot.kind value slot.address)) := by
        simp only [withStack] at run
        simp only [Builder.store, bind, EStateM.bind, find_eq, found, pop?, top, run]
        rfl
      exact result ▸ .done (.store found top carried)

theorem read_outcome (name : String) (before : Builder) :
    Outcome (.read name) before (Builder.read name before) := by
  cases found : before.slot? name with
  | none =>
    have result : Builder.read name before = .error (.unknownVariable name) before := by
      simp [Builder.read, bind, EStateM.bind, find_eq, found]
    exact result ▸ .refused (.unknownVariable rfl found)
  | some slot =>
    have result : Builder.read name before =
        .ok () ((before.withExternal .scanf).withCall .scanf slot.kind.pattern
          (some (.storage slot.kind slot.address))) := by
      simp only [Builder.read, bind, EStateM.bind, find_eq, found]
      rfl
    exact result ▸ .done (.read found)

theorem require_eq (external : External) (builder : Builder) :
    Builder.require external builder = .ok () (builder.withExternal external) := rfl

theorem print_outcome (before : Builder) : Outcome .print before (Builder.print before) := by
  cases top : before.stack with
  | nil =>
    have result : Builder.print before = .ok () (before.withExternal .printf) := by
      obtain ⟨listing, pool, externals, stack, slots⟩ := before
      cases top
      rfl
    exact result ▸ .done (.printNothing top)
  | cons operand rest =>
    obtain ⟨listing, pool, externals, stack, slots⟩ := before
    cases top
    -- An integer is printed as it is, which is also a way to carry it to its own kind.
    by_cases floating : operand.kind.family = .floating
    · obtain ⟨value, after, run, carried⟩ := convert_cases operand Family.floating.widest
        ⟨listing, pool, externals.require .printf, rest, slots⟩
      have result : Builder.print ⟨listing, pool, externals, operand :: rest, slots⟩ =
          .ok () (after.withCall .printf value.kind.pattern (some (.value value))) := by
        simp only [Builder.print, bind, EStateM.bind, require_eq, withExternal, pop?, floating,
          if_true, run, call_eq]
      refine result ▸ .done (.print rfl ?_)
      simp only [Kind.printed, floating, if_true]
      exact carried
    · have result : Builder.print ⟨listing, pool, externals, operand :: rest, slots⟩ =
          .ok () (Builder.withCall ⟨listing, pool, externals.require .printf, rest, slots⟩ .printf
            operand.kind.pattern (some (.value operand))) := by
        simp only [Builder.print, bind, EStateM.bind, require_eq, withExternal, pop?, floating,
          if_false]
        rfl
      refine result ▸ .done (.print rfl ?_)
      simp only [Kind.printed, floating, if_false]
      exact .kept

theorem arithmetic_outcome (operator : Arithmetic) (before : Builder) :
    Outcome (.arithmetic operator) before (Builder.arithmetic operator before) := by
  have idle (short : popPair? before = .ok none before) (few : before.stack.length < 2) :
      Outcome (.arithmetic operator) before (Builder.arithmetic operator before) := by
    have result : Builder.arithmetic operator before = .ok () before := by
      simp [Builder.arithmetic, bind, EStateM.bind, short, pure, EStateM.pure]
    exact result ▸ .done (.arithmeticNothing few)
  cases top : before.stack with
  | nil => exact idle (by simp [popPair?, top]) (by simp [top])
  | cons second below =>
    cases below with
    | nil => exact idle (by simp [popPair?, top]) (by simp [top])
    | cons first rest =>
      obtain ⟨left, right, middle, after, run, leftCarried, rightCarried⟩ :=
        reconcile_cases operator first second (before.withStack rest)
      have result : Builder.arithmetic operator before =
          .ok () ((after.withValue (.arithmetic operator left.kind left right)).withOperand
            (.register after.listing.next left.kind)) := by
        simp only [withStack] at run
        simp only [Builder.arithmetic, bind, EStateM.bind, popPair?, top, run]
        rfl
      exact result ▸ .done (.arithmetic top leftCarried rightCarried)

/-- Every command takes a step or is refused, and a refusal changes nothing. -/
theorem run_outcome (command : Command) (before : Builder) :
    Outcome command before (command.run before) := by
  cases command with
  | declare kind name => exact .done .declare
  | declareNamed type name =>
    cases named : Kind.named? type with
    | none =>
      have result : run (.declareNamed type name) before = .error (.unknownType type) before := by
        simp only [run, Builder.declareNamed, named]
        rfl
      exact result ▸ .refused (.unknownType named)
    | some kind =>
      have result : run (.declareNamed type name) before = Builder.declare kind name before := by
        simp only [run, Builder.declareNamed, named]
      exact result ▸ .done (.declareNamed named)
  | load name => exact load_outcome name before
  | store name => exact store_outcome name before
  | read name => exact read_outcome name before
  | write text => exact .done .write
  | print => exact print_outcome before
  | pushInteger text => exact .done .pushInteger
  | pushReal text => exact .done .pushReal
  | arithmetic operator => exact arithmetic_outcome operator before

/-- Each step only adds lines and texts. -/
theorem Step.grows {command : Command} {before after : Builder}
    (step : Step command before after) : before.Extends after := by
  cases step with
  | declare => exact (grows_withValue _ _).trans (.of_eq rfl rfl)
  | declareNamed _ => exact (grows_withValue _ _).trans (.of_eq rfl rfl)
  | load _ => exact (grows_withValue _ _).trans (.of_eq rfl rfl)
  | store _ _ carried =>
    exact (grows_withStack _ _).trans (carried.grows.trans (grows_withEffect _ _))
  | read _ => exact (grows_withExternal _ _).trans (grows_withCall _ _ _ _)
  | write => exact (grows_withExternal _ _).trans (grows_withCall _ _ _ _)
  | print _ carried =>
    exact ((grows_withExternal _ _).trans (grows_withStack _ _)).trans
      (carried.grows.trans (grows_withCall _ _ _ _))
  | arithmetic _ leftCarried rightCarried =>
    have carried := leftCarried.grows.trans rightCarried.grows
    exact (grows_withStack _ _).trans
      (carried.trans ((grows_withValue _ _).trans (grows_withStack _ _)))
  | _ => exact .of_eq rfl rfl

/-- Each step leaves the texts under their numbers. -/
theorem Step.indexed {command : Command} {before after : Builder}
    (step : Step command before after) (indexed : before.pool.Indexed) : after.pool.Indexed := by
  cases step with
  | @store _ _ _ _ _ _ carriedTo _ _ carried =>
    have same : carriedTo.pool = before.pool := carried.pool_eq
    exact same ▸ indexed
  | read _ => exact indexed.intern _
  | write => exact indexed.intern _
  | @print _ _ _ _ carriedTo _ carried =>
    have same : carriedTo.pool = before.pool := carried.pool_eq
    rw [← same] at indexed
    exact indexed.intern _
  | @arithmetic _ _ _ _ _ _ _ _ carriedTo _ leftCarried rightCarried =>
    have same : carriedTo.pool = before.pool := rightCarried.pool_eq.trans leftCarried.pool_eq
    exact same ▸ indexed
  | _ => exact indexed

end Command

end Stackline
