import Mathlib
import Stackline.Proofs.Builder.Typing
import Stackline.Proofs.Semantics.Machine

/-!
# Compiled scripts mean what scripts mean

The lines that a builder has appended, carried out on the machine, lead to a state
that represents the state of the script carried out directly: memory cells are slots,
operands of the builder's stack denote the values on the script's stack, and addresses
stand for the slots of names. Each command keeps this relation, provided that the
registers do not run out; so does every script.
-/

namespace Stackline.Semantics

open Stackline.Code
open Stackline.Script
open Stackline.Assembly (Value Pointer Format)

variable {V : Type}

/-! ### Kinds -/

/-- The builder carries operands to the larger of their kinds. -/
theorem commonKind_eq_larger (left right : Kind) :
    Builder.commonKind left right = larger left right := by
  cases left <;> cases right <;> decide

theorem printed_eq_widened (kind : Kind) : kind.printed = widened kind := by
  cases kind <;> decide

/-! ### The relation -/

/-- An operand denotes a value of its kind. -/
structure Denotes (interpretation : Interpretation V) (machine : Machine V) (operand : Operand)
    (entry : Kind × V) : Prop where
  kind : operand.kind = entry.1
  value : machine.value? interpretation operand.kind (.of operand) = some entry.2

/-- The address of a variable is that of the slot of its name. -/
structure Stands (machine : Machine V) (bound : String × Slot) (named : String × Nat) : Prop where
  name : bound.1 = named.1
  address : machine.registers bound.2.address.toNat = some (.address named.2)
  kind : ∃ value, machine.memory[named.2]? = some (bound.2.kind, value)

/-- A machine that has carried out the lines so far represents the state of the
script. Registers that were not handed out yet are empty. -/
structure Represents (interpretation : Interpretation V) (builder : Builder) (state : State V)
    (machine : Machine V) : Prop where
  numbered : builder.listing.Numbered
  memory : machine.memory = state.slots
  inputs : machine.inputs = state.inputs
  outputs : machine.outputs = state.outputs
  stack : List.Forall₂ (Denotes interpretation machine) builder.stack state.stack
  names : List.Forall₂ (Stands machine) builder.slots state.names
  free : ∀ id, builder.listing.next.toNat ≤ id → machine.registers id = none

theorem represents_empty (interpretation : Interpretation V) (inputs : List V) :
    Represents interpretation .empty (.start inputs) (.start inputs) :=
  ⟨Listing.numbered_empty, rfl, rfl, rfl, .nil, .nil, fun _ _ => rfl⟩

/-! ### Filling a register -/

/-- Filling a free register changes no value that a line could take before. -/
theorem value?_fill {interpretation : Interpretation V} {machine : Machine V} {register : Nat}
    {content : Content V} {kind : Kind} {value : Value} {found : V}
    (free : machine.registers register = none)
    (taken : machine.value? interpretation kind value = some found) :
    (machine.fill register content).value? interpretation kind value = some found := by
  cases value with
  | literal text => exact taken
  | register id =>
    have other : id ≠ register := by
      rintro rfl
      simp [Machine.value?, free] at taken
    simpa [Machine.value?, Machine.fill, other] using taken

theorem value?_fill_self {interpretation : Interpretation V} {machine : Machine V}
    {register : Register} {kind : Kind} {value : V} :
    (machine.fill register.toNat (.value kind value)).value? interpretation kind
      (.of (.register register kind)) = some value := by
  simp [Machine.value?, Machine.fill, Value.of]

theorem Stands.fill {machine : Machine V} {register : Nat} {content : Content V}
    {bound : String × Slot} {named : String × Nat} (stands : Stands machine bound named)
    (free : machine.registers register = none) :
    Stands (machine.fill register content) bound named := by
  refine ⟨stands.name, ?_, stands.kind⟩
  have other : bound.2.address.toNat ≠ register := by
    rintro equal
    rw [← equal, stands.address] at free
    cases free
  simpa [Machine.fill, other] using stands.address

variable {interpretation : Interpretation V} {builder : Builder} {state : State V}
  {machine : Machine V}

/-- A line that leaves something in the next register represents the same state. -/
theorem Represents.fill (represents : Represents interpretation builder state machine)
    (instruction : Instruction) (content : Content V)
    (small : (builder.withValue instruction).listing.registers.length < 2 ^ 32 - 1) :
    Represents interpretation (builder.withValue instruction) state
      (machine.fill builder.listing.next.toNat content) := by
  have numbered : (builder.withValue instruction).listing.Numbered :=
    represents.numbered.addValue instruction
  have count : (builder.withValue instruction).listing.registers.length =
      builder.listing.registers.length + 1 := by
    simp [Builder.withValue, Listing.registers, Listing.addValue, Line.register?]
  have next : (builder.withValue instruction).listing.next.toNat =
      builder.listing.next.toNat + 1 := by
    rw [numbered.toNat_next small, represents.numbered.toNat_next (by omega), count]
  have free := represents.free builder.listing.next.toNat (Nat.le_refl _)
  refine ⟨numbered, represents.memory, represents.inputs, represents.outputs, ?_, ?_, ?_⟩
  · exact represents.stack.imp fun _ _ denotes => ⟨denotes.kind, value?_fill free denotes.value⟩
  · exact represents.names.imp fun _ _ stands => stands.fill free
  · intro id above
    rw [next] at above
    have other : id ≠ builder.listing.next.toNat := by omega
    simpa [Machine.fill, other] using represents.free id (by omega)

/-! ### Changes to memory, input and output -/

/-- A change that leaves the registers and the kinds of memory cells alone. -/
theorem Represents.update (represents : Represents interpretation builder state machine)
    {later : State V} {changed : Machine V} (registers : changed.registers = machine.registers)
    (memory : changed.memory = later.slots) (inputs : changed.inputs = later.inputs)
    (outputs : changed.outputs = later.outputs) (stack : later.stack = state.stack)
    (names : later.names = state.names)
    (kinds : ∀ (index : Nat) kind value, machine.memory[index]? = some (kind, value) →
      ∃ value, changed.memory[index]? = some (kind, value)) :
    Represents interpretation builder later changed := by
  refine ⟨represents.numbered, memory, inputs, outputs, ?_, ?_, ?_⟩
  · rw [stack]
    refine represents.stack.imp fun operand entry denotes => ⟨denotes.kind, ?_⟩
    have value := denotes.value
    cases operand <;> simpa only [Value.of, Machine.value?, registers] using value
  · rw [names]
    refine represents.names.imp fun bound named stands => ⟨stands.name, ?_, ?_⟩
    · rw [registers]
      exact stands.address
    · obtain ⟨value, found⟩ := stands.kind
      exact kinds named.2 bound.2.kind value found
  · rw [registers]
    exact represents.free

theorem Represents.allocate (represents : Represents interpretation builder state machine)
    (entry : Kind × V) :
    Represents interpretation builder { state with slots := state.slots ++ [entry] }
      { machine with memory := machine.memory ++ [entry] } := by
  refine represents.update rfl (by simp [represents.memory]) represents.inputs represents.outputs
    rfl rfl fun index kind value found => ⟨value, ?_⟩
  have bound := (List.getElem?_eq_some_iff.1 found).1
  simpa [List.getElem?_append_left bound] using found

theorem getElem?_set_kind {cells : List (Kind × V)} {index other : Nat} {kind found : Kind}
    {old value held : V} (present : cells[index]? = some (kind, old))
    (looked : cells[other]? = some (found, held)) :
    ∃ value', (cells.set index (kind, value))[other]? = some (found, value') := by
  by_cases same : index = other
  · subst same
    rw [present] at looked
    cases looked
    have bound := (List.getElem?_eq_some_iff.1 present).1
    exact ⟨value, by simp [bound]⟩
  · exact ⟨held, by rw [List.getElem?_set_ne same]; exact looked⟩

theorem Represents.assign (represents : Represents interpretation builder state machine)
    {index : Nat} {kind : Kind} {old : V} (present : machine.memory[index]? = some (kind, old))
    (value : V) :
    Represents interpretation builder
      { state with slots := state.slots.set index (kind, value) }
      { machine with memory := machine.memory.set index (kind, value) } :=
  represents.update rfl (by simp [represents.memory]) represents.inputs represents.outputs
    rfl rfl fun _ _ _ looked => getElem?_set_kind present looked

theorem Represents.receive (represents : Represents interpretation builder state machine)
    {index : Nat} {kind : Kind} {old : V} (present : machine.memory[index]? = some (kind, old))
    (value : V) (rest : List V) :
    Represents interpretation builder
      { state with slots := state.slots.set index (kind, value), inputs := rest }
      { machine with memory := machine.memory.set index (kind, value), inputs := rest } :=
  represents.update rfl (by simp [represents.memory]) rfl represents.outputs
    rfl rfl fun _ _ _ looked => getElem?_set_kind present looked

theorem Represents.write (represents : Represents interpretation builder state machine)
    (output : Output V) :
    Represents interpretation builder (state.write output)
      { machine with outputs := machine.outputs ++ [output] } :=
  represents.update rfl represents.memory represents.inputs
    (by simp [represents.outputs, State.write]) rfl rfl fun _ _ value found => ⟨value, found⟩

/-! ### Changes to the stack and the names -/

theorem Represents.withStack (represents : Represents interpretation builder state machine)
    {operands : List Operand} {entries : List (Kind × V)}
    (stack : List.Forall₂ (Denotes interpretation machine) operands entries) :
    Represents interpretation (builder.withStack operands) { state with stack := entries }
      machine :=
  ⟨represents.numbered, represents.memory, represents.inputs, represents.outputs, stack,
    represents.names, represents.free⟩

theorem Represents.withOperand (represents : Represents interpretation builder state machine)
    {operand : Operand} {value : V}
    (taken : machine.value? interpretation operand.kind (.of operand) = some value) :
    Represents interpretation (builder.withOperand operand) (state.push operand.kind value)
      machine :=
  represents.withStack (.cons ⟨rfl, taken⟩ represents.stack)

theorem Represents.withSlot (represents : Represents interpretation builder state machine)
    {name : String} {slot : Slot} {index : Nat}
    (stands : Stands machine (name, slot) (name, index)) :
    Represents interpretation (builder.withSlot name slot)
      { state with names := (name, index) :: state.names } machine :=
  ⟨represents.numbered, represents.memory, represents.inputs, represents.outputs,
    represents.stack, .cons stands represents.names, represents.free⟩

theorem Represents.withExternal (represents : Represents interpretation builder state machine)
    (external : External) :
    Represents interpretation (builder.withExternal external) state machine :=
  ⟨represents.numbered, represents.memory, represents.inputs, represents.outputs,
    represents.stack, represents.names, represents.free⟩

theorem Represents.withEffect (represents : Represents interpretation builder state machine)
    (instruction : Instruction) :
    Represents interpretation (builder.withEffect instruction) state machine :=
  ⟨represents.numbered.addEffect instruction, represents.memory, represents.inputs,
    represents.outputs, represents.stack, represents.names, represents.free⟩

theorem Represents.withText (represents : Represents interpretation builder state machine)
    (text : String) : Represents interpretation (builder.withText text) state machine :=
  ⟨represents.numbered, represents.memory, represents.inputs, represents.outputs,
    represents.stack, represents.names, represents.free⟩

/-! ### Looking names up -/

theorem lookup_of_stands {bounds : List (String × Slot)} {names : List (String × Nat)}
    (stands : List.Forall₂ (Stands machine) bounds names) {name : String} {slot : Slot}
    (found : bounds.lookup name = some slot) :
    ∃ index, names.lookup name = some index ∧ Stands machine (name, slot) (name, index) := by
  induction stands with
  | nil => cases found
  | @cons bound named bounds names head _ inductionHypothesis =>
    obtain ⟨boundName, boundSlot⟩ := bound
    obtain ⟨namedName, index⟩ := named
    obtain rfl : boundName = namedName := head.name
    by_cases same : name = boundName
    · subst same
      simp only [List.lookup_cons_self, Option.some.injEq] at found ⊢
      subst found
      exact ⟨index, rfl, head⟩
    · have other : (name == boundName) = false := by simpa using same
      simp only [List.lookup_cons, other] at found ⊢
      exact inductionHypothesis found

/-- A variable is found under the same name on both sides, and its address leads to
its slot. -/
theorem Represents.slot (represents : Represents interpretation builder state machine)
    {name : String} {slot : Slot} (found : builder.slot? name = some slot)
    (pointers : Pointers) :
    ∃ index value, state.slot? name = some (index, slot.kind, value) ∧
      machine.cell? (.of pointers slot.kind slot.address) = some (index, slot.kind, value) ∧
      machine.memory[index]? = some (slot.kind, value) := by
  obtain ⟨index, looked, stands⟩ := lookup_of_stands represents.names found
  obtain ⟨value, present⟩ := stands.kind
  refine ⟨index, value, ?_, ?_, present⟩
  · rw [represents.memory] at present
    simp [State.slot?, looked, present]
  · have address := stands.address
    cases pointers <;> simp [Machine.cell?, Pointer.of, address, present]

/-! ### Carrying lines out -/

/-- What a body is carried out with: the meaning of values, the first contents of
memory, the input, the texts that formats stand for, and how pointers are spelled. -/
structure Setting (V : Type) where
  interpretation : Interpretation V
  initial : Nat → V
  inputs : List V
  texts : List String
  pointers : Pointers

/-- Carrying the lines so far out leads to a machine. -/
def Setting.Reaches (setting : Setting V) (builder : Builder) (machine : Machine V) : Prop :=
  executeAll setting.interpretation setting.initial setting.texts
    (builder.body setting.pointers) (.start setting.inputs) = some machine

/-- The lines so far can be carried out, and lead to a machine that represents the
state. -/
def Setting.Runs (setting : Setting V) (builder : Builder) (state : State V) : Prop :=
  ∃ machine, setting.Reaches builder machine ∧
    Represents setting.interpretation builder state machine

variable {setting : Setting V}

theorem Setting.Reaches.withValue {instruction : Instruction} {content : Content V}
    {after : Machine V} (reaches : setting.Reaches builder machine)
    (performed : perform setting.interpretation setting.initial setting.texts
      (.of setting.pointers instruction) machine = some (some content, after)) :
    setting.Reaches (builder.withValue instruction)
      (after.fill builder.listing.next.toNat content) := by
  simp only [Reaches, executeAll] at reaches ⊢
  rw [Builder.body_withValue, List.foldlM_append, reaches]
  simp [execute, Assembly.Line.of, performed]

theorem Setting.Reaches.withEffect {instruction : Instruction} {after : Machine V}
    (reaches : setting.Reaches builder machine)
    (performed : perform setting.interpretation setting.initial setting.texts
      (.of setting.pointers instruction) machine = some (none, after)) :
    setting.Reaches (builder.withEffect instruction) after := by
  simp only [Reaches, executeAll] at reaches ⊢
  rw [Builder.body_withEffect, List.foldlM_append, reaches]
  simp [execute, Assembly.Line.of, performed]

/-- A format stands for the text that it names. -/
theorem text?_of_names {texts : List String} {text : String} {format : Format}
    (names : format.Names texts text) : text? texts format = some text := by
  obtain ⟨positive, found, size⟩ := names
  cases number : format.text with
  | zero => omega
  | succ index =>
    rw [number] at found
    simp only [Nat.add_sub_cancel] at found
    simp only [Option.mem_def] at size
    simp [text?, number, found, guard, if_pos size]

theorem text?_intern {pool : Pool} (indexed : pool.Indexed) {text : String}
    {texts : List String} (pointers : Pointers) (stored : (pool.intern text).2.texts <+: texts) :
    text? texts (.of pointers (pool.intern text).1) = some text :=
  text?_of_names (Format.names_of ((Pool.names_intern indexed text).mono stored))

/-! ### Carrying operands to a kind -/

/-- A carried operand denotes the carried value, and operands keep what they denote. -/
theorem carries_runs {before after : Builder} {operand value : Operand} {target : Kind}
    {found : V} (carried : Builder.Carries before operand target value after)
    (reaches : setting.Reaches before machine)
    (represents : Represents setting.interpretation before state machine)
    (taken : machine.value? setting.interpretation operand.kind (.of operand) = some found)
    (small : after.listing.registers.length < 2 ^ 32 - 1) :
    ∃ later, setting.Reaches after later ∧
      Represents setting.interpretation after state later ∧
      later.value? setting.interpretation target (.of value) =
        some (setting.interpretation.carry operand.kind target found) ∧
      ∀ kind other held, machine.value? setting.interpretation kind other = some held →
        later.value? setting.interpretation kind other = some held := by
  cases carried with
  | kept =>
    refine ⟨machine, reaches, represents, ?_, fun _ _ _ same => same⟩
    simpa [Interpretation.carry] using taken
  | @converted _ conversion between =>
    have legal := Conversion.legal_of_between? between
    have different : operand.kind ≠ target := by
      intro same
      rw [Conversion.between?_eq_none_iff.2 same] at between
      cases between
    have performed : perform setting.interpretation setting.initial setting.texts
        (.of setting.pointers (.convert conversion operand target)) machine =
          some (some (.value target (setting.interpretation.convert operand.kind target found)),
            machine) := by
      simp [perform, Assembly.Instruction.of, taken, legal]
    have free := represents.free _ (Nat.le_refl _)
    refine ⟨_, reaches.withValue performed, represents.fill _ _ small, ?_, fun _ _ _ same =>
      value?_fill free same⟩
    simpa [Interpretation.carry, different] using value?_fill_self

/-! ### Commands -/

/-- What a command does to the state of a script. -/
def meaning (interpretation : Interpretation V) (initial : Nat → V) (command : Command)
    (state : State V) : Option (State V) :=
  match command with
  | .declare kind name => some (state.declare initial kind name)
  | .declareNamed type name => (Kind.named? type).map fun kind => state.declare initial kind name
  | .load name => state.load name
  | .store name => state.store interpretation name
  | .read name => state.read name
  | .write text => some (state.write (.text text))
  | .print => some (state.print interpretation)
  | .pushInteger text => some (state.push .i32 (interpretation.constant .i32 text))
  | .pushReal text => some (state.push .f32 (interpretation.constant .f32 text))
  | .arithmetic operator => some (state.arithmetic interpretation operator)

theorem declare_runs {kind : Kind} {name : String} (reaches : setting.Reaches builder machine)
    (represents : Represents setting.interpretation builder state machine)
    (small : (builder.withValue (.allocate kind)).listing.registers.length < 2 ^ 32 - 1) :
    setting.Runs ((builder.withValue (.allocate kind)).withSlot name ⟨builder.listing.next, kind⟩)
      (state.declare setting.initial kind name) := by
  have performed : perform setting.interpretation setting.initial setting.texts
      (.of setting.pointers (.allocate kind)) machine =
        some (some (.address machine.memory.length), { machine with
          memory := machine.memory ++ [(kind, setting.initial machine.memory.length)] }) := by
    simp [perform, Assembly.Instruction.of]
  have filled := (represents.allocate (kind, setting.initial machine.memory.length)).fill
    (.allocate kind) (.address machine.memory.length) small
  refine ⟨_, reaches.withValue performed, ?_⟩
  rw [State.declare, ← represents.memory]
  rw [← represents.memory] at filled
  exact filled.withSlot ⟨rfl, by simp [Machine.fill],
    setting.initial machine.memory.length, by simp [Machine.fill]⟩

theorem load_runs {name : String} {slot : Slot} (reaches : setting.Reaches builder machine)
    (represents : Represents setting.interpretation builder state machine)
    (found : builder.slot? name = some slot)
    (small : (builder.withValue (.load slot.kind slot.address)).listing.registers.length <
      2 ^ 32 - 1) :
    ∃ later, state.load name = some later ∧
      setting.Runs ((builder.withValue (.load slot.kind slot.address)).withOperand
        (.register builder.listing.next slot.kind)) later := by
  obtain ⟨index, value, looked, cell, _⟩ := represents.slot found setting.pointers
  have performed : perform setting.interpretation setting.initial setting.texts
      (.of setting.pointers (.load slot.kind slot.address)) machine =
        some (some (.value slot.kind value), machine) := by
    simp [perform, Assembly.Instruction.of, cell]
  refine ⟨state.push slot.kind value, by simp [State.load, looked], _,
    reaches.withValue performed, ?_⟩
  exact (represents.fill (.load slot.kind slot.address) (.value slot.kind value) small).withOperand
    value?_fill_self

theorem store_runs {name : String} {slot : Slot} {operand value : Operand}
    {rest : List Operand} {after : Builder} (reaches : setting.Reaches builder machine)
    (represents : Represents setting.interpretation builder state machine)
    (found : builder.slot? name = some slot) (top : builder.stack = operand :: rest)
    (carried : Builder.Carries (builder.withStack rest) operand slot.kind value after)
    (small : after.listing.registers.length < 2 ^ 32 - 1) :
    ∃ later, state.store setting.interpretation name = some later ∧
      setting.Runs (after.withEffect (.store slot.kind value slot.address)) later := by
  have stack := represents.stack
  rw [top] at stack
  obtain ⟨⟨kind, held⟩, entries, denotes, others, below⟩ := List.forall₂_cons_left_iff.1 stack
  obtain rfl : operand.kind = kind := denotes.kind
  obtain ⟨moved, movedReaches, movedRepresents, taken, _⟩ :=
    carries_runs carried reaches (represents.withStack others) denotes.value small
  obtain ⟨index, old, looked, cell, present⟩ :=
    movedRepresents.slot ((carried.slot?_eq name).trans found) setting.pointers
  have performed : perform setting.interpretation setting.initial setting.texts
      (.of setting.pointers (.store slot.kind value slot.address)) moved =
        some (none, { moved with
          memory := moved.memory.set index
            (slot.kind, setting.interpretation.carry operand.kind slot.kind held) }) := by
    simp [perform, Assembly.Instruction.of, cell, taken]
  have stored := movedRepresents.assign present
    (setting.interpretation.carry operand.kind slot.kind held)
  refine ⟨_, ?_, _, movedReaches.withEffect performed, stored.withEffect _⟩
  have looked : state.slot? name = some (index, slot.kind, old) := looked
  simp [State.store, looked, below]

/-- A call whose format is in the pool. -/
theorem call_runs {external : External} {text : String} {argument : Option CallArgument}
    {after : Machine V} {later : State V} (reaches : setting.Reaches builder machine)
    (indexed : builder.pool.Indexed)
    (stored : (builder.withCall external text argument).pool.texts <+: setting.texts)
    (performed : ∀ format, text? setting.texts format = some text →
      perform setting.interpretation setting.initial setting.texts
        (.call external format (argument.map (.of setting.pointers))) machine =
          some (some .status, after))
    (represents : Represents setting.interpretation builder later after)
    (small : (builder.withCall external text argument).listing.registers.length < 2 ^ 32 - 1) :
    setting.Runs (builder.withCall external text argument) later := by
  have textReaches : setting.Reaches (builder.withText text) machine := reaches
  have filled := performed _ (text?_intern indexed setting.pointers stored)
  exact ⟨_, textReaches.withValue filled, (represents.withText text).fill _ _ small⟩

theorem read_runs {name : String} {slot : Slot} (reaches : setting.Reaches builder machine)
    (indexed : builder.pool.Indexed)
    (represents : Represents setting.interpretation builder state machine)
    (found : builder.slot? name = some slot)
    (stored : (builder.withCall .scanf slot.kind.pattern
      (some (.storage slot.kind slot.address))).pool.texts <+: setting.texts)
    (small : (builder.withCall .scanf slot.kind.pattern
      (some (.storage slot.kind slot.address))).listing.registers.length < 2 ^ 32 - 1) :
    ∃ later, state.read name = some later ∧
      setting.Runs (builder.withCall .scanf slot.kind.pattern
        (some (.storage slot.kind slot.address))) later := by
  obtain ⟨index, old, looked, cell, present⟩ := represents.slot found setting.pointers
  cases waiting : state.inputs with
  | nil =>
    refine ⟨state, by simp [State.read, looked, waiting], ?_⟩
    refine call_runs reaches indexed stored (fun format named => ?_) represents small
    simp [perform, Assembly.Argument.of, named, cell, represents.inputs, waiting]
  | cons value rest =>
    refine ⟨{ state with slots := state.slots.set index (slot.kind, value), inputs := rest },
      by simp [State.read, looked, waiting], ?_⟩
    refine call_runs reaches indexed stored (fun format named => ?_)
      (represents.receive present value rest) small
    simp [perform, Assembly.Argument.of, named, cell, represents.inputs, waiting]

theorem print_runs {operand value : Operand} {rest : List Operand} {after : Builder}
    (reaches : setting.Reaches builder machine) (indexed : builder.pool.Indexed)
    (represents : Represents setting.interpretation builder state machine)
    (top : builder.stack = operand :: rest)
    (carried : Builder.Carries (builder.withStack rest) operand operand.kind.printed value after)
    (stored : (after.withCall .printf value.kind.pattern (some (.value value))).pool.texts <+:
      setting.texts)
    (small : (after.withCall .printf value.kind.pattern
      (some (.value value))).listing.registers.length < 2 ^ 32 - 1) :
    setting.Runs (after.withCall .printf value.kind.pattern (some (.value value)))
      (state.print setting.interpretation) := by
  have stack := represents.stack
  rw [top] at stack
  obtain ⟨⟨kind, held⟩, entries, denotes, others, below⟩ := List.forall₂_cons_left_iff.1 stack
  obtain rfl : operand.kind = kind := denotes.kind
  have carriedSmall : after.listing.registers.length < 2 ^ 32 - 1 :=
    Nat.lt_of_le_of_lt (Builder.grows_withCall _ _ _ _).registers_le small
  obtain ⟨moved, movedReaches, movedRepresents, taken, _⟩ :=
    carries_runs carried reaches (represents.withStack others) denotes.value carriedSmall
  have kind_eq := carried.kind_eq
  rw [printed_eq_widened] at kind_eq taken
  have printed : state.print setting.interpretation = State.write
      (setting.interpretation.written operand.kind held) { state with stack := entries } := by
    simp [State.print, below]
  rw [printed]
  have carriedIndexed : after.pool.Indexed := carried.pool_eq ▸ indexed
  refine call_runs movedReaches carriedIndexed stored (fun format named => ?_)
    (movedRepresents.write _) small
  have promoted : widened operand.kind ≠ .f32 := printed_eq_widened _ ▸ Kind.printed_ne _
  simp [perform, Assembly.Argument.of, named, kind_eq, taken, promoted, Interpretation.written]

theorem arithmetic_runs {operator : Arithmetic} {first second left right : Operand}
    {rest : List Operand} {middle after : Builder} (reaches : setting.Reaches builder machine)
    (represents : Represents setting.interpretation builder state machine)
    (top : builder.stack = second :: first :: rest)
    (leftCarried : Builder.Carries (builder.withStack rest) first
      (Builder.commonKind first.kind second.kind) left middle)
    (rightCarried : Builder.Carries middle second
      (Builder.commonKind first.kind second.kind) right after)
    (small : (after.withValue (.arithmetic operator left.kind left
      right)).listing.registers.length < 2 ^ 32 - 1) :
    setting.Runs ((after.withValue (.arithmetic operator left.kind left right)).withOperand
        (.register after.listing.next left.kind))
      (state.arithmetic setting.interpretation operator) := by
  have stack := represents.stack
  rw [top] at stack
  obtain ⟨⟨secondKind, secondHeld⟩, lower, secondDenotes, lowerDenote, below⟩ :=
    List.forall₂_cons_left_iff.1 stack
  obtain ⟨⟨firstKind, firstHeld⟩, entries, firstDenotes, others, rfl⟩ :=
    List.forall₂_cons_left_iff.1 lowerDenote
  obtain rfl : second.kind = secondKind := secondDenotes.kind
  obtain rfl : first.kind = firstKind := firstDenotes.kind
  have afterSmall : after.listing.registers.length < 2 ^ 32 - 1 :=
    Nat.lt_of_le_of_lt (Builder.grows_withValue _ _).registers_le small
  have middleSmall : middle.listing.registers.length < 2 ^ 32 - 1 :=
    Nat.lt_of_le_of_lt rightCarried.grows.registers_le afterSmall
  obtain ⟨halfway, halfwayReaches, halfwayRepresents, leftTaken, halfwayKeeps⟩ :=
    carries_runs leftCarried reaches (represents.withStack others) firstDenotes.value middleSmall
  obtain ⟨moved, movedReaches, movedRepresents, rightTaken, keeps⟩ :=
    carries_runs rightCarried halfwayReaches halfwayRepresents
      (halfwayKeeps _ _ _ secondDenotes.value) afterSmall
  have leftStays := keeps _ _ _ leftTaken
  have kind_eq := leftCarried.kind_eq
  rw [← kind_eq] at leftStays rightTaken
  have performed : perform setting.interpretation setting.initial setting.texts
      (.of setting.pointers (.arithmetic operator left.kind left right)) moved = some
        (some (.value left.kind (setting.interpretation.apply operator left.kind
          (setting.interpretation.carry first.kind left.kind firstHeld)
          (setting.interpretation.carry second.kind left.kind secondHeld))), moved) := by
    simp [perform, Assembly.Instruction.of, leftStays, rightTaken]
  refine ⟨_, movedReaches.withValue performed, ?_⟩
  rw [commonKind_eq_larger] at kind_eq
  have applied : state.arithmetic setting.interpretation operator =
      State.push left.kind (setting.interpretation.apply operator left.kind
          (setting.interpretation.carry first.kind left.kind firstHeld)
          (setting.interpretation.carry second.kind left.kind secondHeld))
        { state with stack := entries } := by
    simp [State.arithmetic, below, kind_eq]
  rw [applied]
  exact (movedRepresents.fill _ _ small).withOperand value?_fill_self

/-- With fewer than two operands an operator does nothing. -/
theorem arithmetic_of_short {operator : Arithmetic} (short : state.stack.length < 2) :
    state.arithmetic interpretation operator = state := by
  unfold State.arithmetic
  split
  · rename_i found
    rw [found, List.length_cons, List.length_cons] at short
    omega
  · rfl

/-- Each command does to the machine what it means for the script. -/
theorem step_runs {command : Command} {before after : Builder}
    (step : Command.Step command before after) (indexed : before.pool.Indexed)
    (runs : setting.Runs before state)
    (small : after.listing.registers.length < 2 ^ 32 - 1)
    (stored : after.pool.texts <+: setting.texts) :
    ∃ later, meaning setting.interpretation setting.initial command state = some later ∧
      setting.Runs after later := by
  obtain ⟨machine, reaches, represents⟩ := runs
  cases step with
  | declare => exact ⟨_, rfl, declare_runs reaches represents small⟩
  | declareNamed named =>
    exact ⟨_, by simp [meaning, named], declare_runs reaches represents small⟩
  | load found => exact load_runs reaches represents found small
  | storeNothing found empty =>
    obtain ⟨index, value, looked, _, _⟩ := represents.slot found setting.pointers
    have nothing := represents.stack
    rw [empty, List.forall₂_nil_left_iff] at nothing
    exact ⟨state, by simp [meaning, State.store, looked, nothing], machine, reaches, represents⟩
  | store found top carried =>
    have carriedSmall := Nat.lt_of_le_of_lt (Builder.grows_withEffect _ _).registers_le small
    exact store_runs reaches represents found top carried carriedSmall
  | read found =>
    have called : setting.Reaches (before.withExternal .scanf) machine := reaches
    exact read_runs called indexed (represents.withExternal .scanf) found stored small
  | write =>
    have called : setting.Reaches (before.withExternal .printf) machine := reaches
    refine ⟨_, rfl, call_runs called indexed stored (fun format named => ?_)
      ((represents.withExternal .printf).write _) small⟩
    simp [perform, named]
  | printNothing empty =>
    have nothing := represents.stack
    rw [empty, List.forall₂_nil_left_iff] at nothing
    refine ⟨state, ?_, machine, reaches, represents.withExternal .printf⟩
    simp [meaning, State.print, nothing]
  | print top carried =>
    have called : setting.Reaches (before.withExternal .printf) machine := reaches
    exact ⟨_, rfl, print_runs called indexed (represents.withExternal .printf) top carried stored
      small⟩
  | pushInteger => exact ⟨_, rfl, machine, reaches, represents.withOperand rfl⟩
  | pushReal => exact ⟨_, rfl, machine, reaches, represents.withOperand rfl⟩
  | arithmeticNothing short =>
    rw [represents.stack.length_eq] at short
    exact ⟨state, congrArg some (arithmetic_of_short short), machine, reaches, represents⟩
  | arithmetic top leftCarried rightCarried =>
    exact ⟨_, rfl, arithmetic_runs reaches represents top leftCarried rightCarried small⟩

/-- Every run of commands does to the machine what the commands mean. -/
theorem steps_runs {commands : List Command} {before after : Builder}
    (run : Command.Steps commands before after) (indexed : before.pool.Indexed)
    (runs : setting.Runs before state)
    (small : after.listing.registers.length < 2 ^ 32 - 1)
    (stored : after.pool.texts <+: setting.texts) :
    ∃ later, commands.foldlM (fun state command =>
        meaning setting.interpretation setting.initial command state) state = some later ∧
      setting.Runs after later := by
  induction run generalizing state with
  | refl => exact ⟨state, rfl, runs⟩
  | step first others inductionHypothesis =>
    have grown := others.grows
    have middleSmall := Nat.lt_of_le_of_lt grown.registers_le small
    obtain ⟨middle, firstMeaning, middleRuns⟩ :=
      step_runs first indexed runs middleSmall (grown.texts.trans stored)
    obtain ⟨later, othersMeaning, laterRuns⟩ :=
      inductionHypothesis (first.indexed indexed) middleRuns small stored
    exact ⟨later, by simp [firstMeaning, othersMeaning], laterRuns⟩

/-! ### Scripts -/

/-- An operation means what its commands mean one after the other. In particular,
writing a variable is the same as loading and printing it. -/
theorem step_eq_commands (interpretation : Interpretation V) (initial : Nat → V)
    (operation : Operation) (state : State V) :
    step interpretation initial operation state =
      (Compile.commands operation).foldlM
        (fun state command => meaning interpretation initial command state) state := by
  cases operation with
  | writeVariable name =>
    cases found : state.slot? name with
    | none => simp [step, Compile.commands, meaning, State.load, found]
    | some entry =>
      simp [step, Compile.commands, meaning, State.load, found, State.push, State.print,
        State.write]
  | _ => simp [step, Compile.commands, meaning]

theorem run_eq_commands (interpretation : Interpretation V) (initial : Nat → V)
    (statements : List Statement) (state : State V) :
    run interpretation initial (statements.map (·.operation)) state =
      (Compile.scriptCommands statements).foldlM
        (fun state command => meaning interpretation initial command state) state := by
  induction statements generalizing state with
  | nil => rfl
  | cons statement rest inductionHypothesis =>
    rw [Compile.scriptCommands, List.flatMap_cons, List.foldlM_append, ← step_eq_commands]
    simp only [run, List.map_cons, List.foldlM_cons]
    congr 1
    funext middle
    exact inductionHypothesis middle

/-- A script that can be read and built runs to its end when carried out directly, and
so does the text of its lines, in either spelling of pointers. Both write the same, read
the same and leave the same contents in memory; the operands that remain denote the
values that remain, and the variables stand for the same slots. -/
theorem emitted_lines_refine_script {source : String} {statements : List Statement}
    (parsed : parse source = .ok statements) (tracing : Tracing)
    (accepted : (Compile.replay tracing statements .empty).failure = none)
    (small : (Compile.replay tracing statements .empty).builder.listing.registers.length <
      2 ^ 32 - 1)
    (pointers : Pointers) (interpretation : Interpretation V) (initial : Nat → V)
    (inputs : List V) :
    ∃ (state : State V) (machine : Machine V),
      run interpretation initial (statements.map (·.operation)) (.start inputs) = some state ∧
      executeTexts interpretation initial
        (Compile.replay tracing statements .empty).builder.pool.texts
        ((Compile.replay tracing statements .empty).builder.listing.lines.map
          (Line.spell pointers)) (.start inputs) = some machine ∧
      machine.outputs = state.outputs ∧ machine.inputs = state.inputs ∧
      machine.memory = state.slots ∧
      List.Forall₂ (Denotes interpretation machine)
        (Compile.replay tracing statements .empty).builder.stack state.stack ∧
      List.Forall₂ (Stands machine)
        (Compile.replay tracing statements .empty).builder.slots state.names := by
  obtain ⟨done, _, steps, complete⟩ := Compile.replay_steps tracing statements .empty
  rw [complete accepted] at steps
  have wellTyped := Compile.wellTyped_of_applied parsed tracing pointers statements.length
    (.inl (by rw [List.take_length]))
  generalize (Compile.replay tracing statements .empty).builder = builder at *
  let setting : Setting V := ⟨interpretation, initial, inputs, builder.pool.texts, pointers⟩
  have started : setting.Runs .empty (.start inputs) :=
    ⟨.start inputs, rfl, represents_empty interpretation inputs⟩
  obtain ⟨state, meant, machine, reaches, represents⟩ :=
    steps_runs steps Pool.indexed_empty started small (List.prefix_refl _)
  refine ⟨state, machine, ?_, ?_, represents.outputs, represents.inputs, represents.memory,
    represents.stack, represents.names⟩
  · rw [run_eq_commands]
    exact meant
  · rw [executeTexts, wellTyped.readBody?_eq]
    exact reaches

/-- A script that reads, mixes kinds and prints, with an interpretation that tells the
operands of an operator apart. -/
theorem emitted_lines_refine_mixed_script :
    ∃ (statements : List Statement) (state : State Nat) (machine : Machine Nat),
      parse "declare float x\nread x\npush 22\nload x\nsub\nprint" = .ok statements ∧
      (Compile.replay ⟨{}, .typed, .plain⟩ statements .empty).failure = none ∧
      executeTexts ⟨fun _ text => text.length, fun _ _ value => value,
          fun _ _ first second => 10 * first + second⟩ (fun _ => 0)
        (Compile.replay ⟨{}, .typed, .plain⟩ statements .empty).builder.pool.texts
        ((Compile.replay ⟨{}, .typed, .plain⟩ statements .empty).builder.listing.lines.map
          (Line.spell .typed)) (.start [5]) = some machine ∧
      machine.outputs = state.outputs ∧ state.outputs = [.value .f64 25] := by
  have parsed : parse "declare float x\nread x\npush 22\nload x\nsub\nprint" =
      .ok [⟨1, .declare "float" "x"⟩, ⟨2, .read "x"⟩, ⟨3, .pushInteger "22"⟩, ⟨4, .load "x"⟩,
        ⟨5, .arithmetic .subtract⟩, ⟨6, .print⟩] := by cbv
  obtain ⟨state, machine, ran, executed, outputs, _⟩ :=
    emitted_lines_refine_script parsed ⟨{}, .typed, .plain⟩ (by decide) (by decide) .typed
      ⟨fun _ text => text.length, fun _ _ value => value,
        fun _ _ first second => 10 * first + second⟩ (fun _ => 0) [5]
  refine ⟨_, state, machine, parsed, by decide, executed, outputs, ?_⟩
  cases ran
  rfl

end Stackline.Semantics
