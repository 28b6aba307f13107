import Stackline.Proofs.Assembly.Reading
import Stackline.Proofs.Code.Pool

/-!
# Well-typed bodies

When the lines of a body fit together, judged by what their texts say. A value is
used at the kind that its line gives it, an address is one of storage set aside for
the kind it is used at, and both come from earlier lines. An opaque pointer does not
show its kind, so the judgement looks the kind up at the line that set the storage
aside. How bodies come to be built is left out here.
-/

namespace Stackline

open Stackline.Code
open Stackline.Number

/-- A conversion that makes sense between two kinds: extensions widen, truncations
narrow, and the others change the family. -/
def Code.Conversion.Legal (source target : Kind) : Conversion → Prop
  | .signExtend =>
    source.family = .integer ∧ target.family = .integer ∧ source.bytes < target.bytes
  | .truncate =>
    source.family = .integer ∧ target.family = .integer ∧ target.bytes < source.bytes
  | .extend =>
    source.family = .floating ∧ target.family = .floating ∧ source.bytes < target.bytes
  | .round =>
    source.family = .floating ∧ target.family = .floating ∧ target.bytes < source.bytes
  | .integerToFloating => source.family = .integer ∧ target.family = .floating
  | .floatingToInteger => source.family = .floating ∧ target.family = .integer

/-- The conversion between two kinds is a legal one. -/
theorem Code.Conversion.legal_of_between? {source target : Kind} {conversion : Conversion}
    (found : Conversion.between? source target = some conversion) :
    conversion.Legal source target := by
  cases source <;> cases target <;> cases found <;> simp [Legal, Kind.family, Kind.bytes]

/-- The kind that a pointer shows. -/
def Code.Pointers.shown (pointers : Pointers) (kind : Kind) : Option Kind :=
  match pointers with
  | .typed => some kind
  | .untyped => none

namespace Assembly

/-- What a register holds: the address of storage for a kind, or a value. -/
inductive Held where
  | address (kind : Kind)
  | value (kind : Kind)
  deriving DecidableEq, Repr

/-- What an instruction leaves in its register. A call returns a status. -/
def Instruction.held? : Instruction → Option Held
  | .allocate kind _ => some (.address kind)
  | .load kind _ _ => some (.value kind)
  | .store _ _ _ _ => none
  | .convert _ _ _ target => some (.value target)
  | .arithmetic _ _ kind _ _ => some (.value kind)
  | .call _ _ _ => some (.value .i32)

/-- A register is filled by one of the lines. -/
def Defines (lines : List Line) (register : Nat) (held : Held) : Prop :=
  ∃ line ∈ lines, line.result = some register ∧ line.instruction.held? = some held

/-- A value of a kind: a register with such a value, or a literal of the kind. -/
def Value.HasKind (earlier : List Line) (kind : Kind) : Value → Prop
  | .register id => Defines earlier id (.value kind)
  | .literal text => Literal kind text

/-- A pointer to storage that was set aside for a kind. -/
structure Pointer.PointsTo (pointers : Pointers) (earlier : List Line) (kind : Kind)
    (pointer : Pointer) : Prop where
  shown : pointer.pointee = pointers.shown kind
  defined : Defines earlier pointer.register (.address kind)

/-- A format that stands for a text: its number is the place of the text, and its
size leaves room for a closing zero byte. -/
structure Format.Names (texts : List String) (text : String) (format : Format) : Prop where
  positive : 0 < format.text
  found : texts[format.text - 1]? = some text
  size : ∀ size ∈ format.size, size = (utf8 text).length + 1

/-- The format of a pooled text stands for what the pooled text does. -/
theorem Format.names_of {pointers : Pointers} {texts : List String} {text : String}
    {pooled : Pooled} (names : pooled.Names texts text) :
    (Format.of pointers pooled).Names texts text := by
  cases pointers with
  | typed => exact ⟨names.positive, names.found, by rintro _ ⟨⟩; exact names.size⟩
  | untyped => exact ⟨names.positive, names.found, by rintro _ ⟨⟩⟩

/-- An instruction that fits behind the lines before it. -/
inductive Instruction.WellTyped (pointers : Pointers) (texts : List String)
    (earlier : List Line) : Instruction → Prop where
  | allocate {kind} : WellTyped pointers texts earlier (.allocate kind kind.bytes)
  | load {kind source} (address : source.PointsTo pointers earlier kind) :
      WellTyped pointers texts earlier (.load kind source kind.bytes)
  | store {kind value target} (operand : value.HasKind earlier kind)
      (address : target.PointsTo pointers earlier kind) :
      WellTyped pointers texts earlier (.store kind value target kind.bytes)
  | convert {conversion source value target} (operand : value.HasKind earlier source)
      (legal : conversion.Legal source target) :
      WellTyped pointers texts earlier (.convert conversion source value target)
  | arithmetic {operator family kind first second} (left : first.HasKind earlier kind)
      (right : second.HasKind earlier kind) (sameFamily : family = kind.family) :
      WellTyped pointers texts earlier (.arithmetic operator family kind first second)
  | read {kind target format} (address : target.PointsTo pointers earlier kind)
      (names : format.Names texts kind.pattern) :
      WellTyped pointers texts earlier (.call .scanf format (some (.storage target)))
  | write {text format} (names : format.Names texts text) :
      WellTyped pointers texts earlier (.call .printf format none)
  | print {kind value format} (operand : value.HasKind earlier kind) (promoted : kind ≠ .f32)
      (names : format.Names texts kind.pattern) :
      WellTyped pointers texts earlier (.call .printf format (some (.value kind value)))

/-- A line that fits behind the lines before it. Exactly the lines that leave
something take a register. -/
structure Line.WellTyped (pointers : Pointers) (texts : List String) (earlier : List Line)
    (line : Line) : Prop where
  instruction : line.instruction.WellTyped pointers texts earlier
  result : line.result.isSome = line.instruction.held?.isSome

/-- A body whose lines each fit behind those before it. -/
def WellTyped (pointers : Pointers) (texts : List String) (body : List Line) : Prop :=
  ∀ earlier line later, body = earlier ++ line :: later → line.WellTyped pointers texts earlier

/-! ### More lines and more texts -/

theorem Defines.mono {earlier lines : List Line} {register : Nat} {held : Held}
    (defines : Defines earlier register held) (subset : earlier ⊆ lines) :
    Defines lines register held := by
  obtain ⟨line, member, result, holds⟩ := defines
  exact ⟨line, subset member, result, holds⟩

theorem Value.HasKind.mono {earlier lines : List Line} {kind : Kind} {value : Value}
    (hasKind : value.HasKind earlier kind) (subset : earlier ⊆ lines) :
    value.HasKind lines kind := by
  cases value with
  | register id => exact Defines.mono hasKind subset
  | literal text => exact hasKind

theorem Pointer.PointsTo.mono {pointers : Pointers} {earlier lines : List Line} {kind : Kind}
    {pointer : Pointer} (pointsTo : pointer.PointsTo pointers earlier kind)
    (subset : earlier ⊆ lines) : pointer.PointsTo pointers lines kind :=
  ⟨pointsTo.shown, pointsTo.defined.mono subset⟩

theorem Format.Names.mono {texts more : List String} {text : String} {format : Format}
    (names : format.Names texts text) (grown : texts <+: more) : format.Names more text :=
  ⟨names.positive, getElem?_of_prefix grown names.found, names.size⟩

theorem Instruction.WellTyped.mono {pointers : Pointers} {texts more : List String}
    {earlier : List Line} {instruction : Instruction}
    (wellTyped : instruction.WellTyped pointers texts earlier) (grown : texts <+: more) :
    instruction.WellTyped pointers more earlier := by
  cases wellTyped with
  | allocate => exact .allocate
  | load address => exact .load address
  | store operand address => exact .store operand address
  | convert operand legal => exact .convert operand legal
  | arithmetic left right sameFamily => exact .arithmetic left right sameFamily
  | read address names => exact .read address (names.mono grown)
  | write names => exact .write (names.mono grown)
  | print operand promoted names => exact .print operand promoted (names.mono grown)

theorem WellTyped.mono {pointers : Pointers} {texts more : List String} {body : List Line}
    (wellTyped : WellTyped pointers texts body) (grown : texts <+: more) :
    WellTyped pointers more body := by
  intro earlier line later equal
  obtain ⟨instruction, result⟩ := wellTyped earlier line later equal
  exact ⟨instruction.mono grown, result⟩

theorem WellTyped.nil {pointers : Pointers} {texts : List String} :
    WellTyped pointers texts [] := by
  intro earlier line later equal
  simp at equal

/-- A line that fits behind a body extends it. -/
theorem WellTyped.concat {pointers : Pointers} {texts : List String} {body : List Line}
    {last : Line} (wellTyped : WellTyped pointers texts body)
    (fits : last.WellTyped pointers texts body) : WellTyped pointers texts (body ++ [last]) := by
  intro earlier line later equal
  rcases List.eq_nil_or_concat later with rfl | ⟨others, final, rfl⟩
  · obtain ⟨rfl, same⟩ := List.append_inj' equal rfl
    cases same
    exact fits
  · rw [List.concat_eq_append, ← List.cons_append, ← List.append_assoc] at equal
    exact wellTyped earlier line others (List.append_inj' equal rfl).1

/-! ### Registers -/

/-- The registers that a value mentions. -/
def Value.mentioned : Value → List Nat
  | .register id => [id]
  | .literal _ => []

/-- The registers that an instruction mentions. -/
def Instruction.mentioned : Instruction → List Nat
  | .allocate _ _ => []
  | .load _ source _ => [source.register]
  | .store _ value target _ => value.mentioned ++ [target.register]
  | .convert _ _ value _ => value.mentioned
  | .arithmetic _ _ _ first second => first.mentioned ++ second.mentioned
  | .call _ _ none => []
  | .call _ _ (some (.storage pointer)) => [pointer.register]
  | .call _ _ (some (.value _ value)) => value.mentioned

theorem Value.HasKind.defined {earlier : List Line} {kind : Kind} {value : Value}
    (hasKind : value.HasKind earlier kind) {id : Nat} (mentioned : id ∈ value.mentioned) :
    ∃ line ∈ earlier, line.result = some id := by
  cases value with
  | register other =>
    cases List.mem_singleton.1 mentioned
    obtain ⟨line, member, result, _⟩ := hasKind
    exact ⟨line, member, result⟩
  | literal text => cases mentioned

theorem Pointer.PointsTo.filled {pointers : Pointers} {earlier : List Line} {kind : Kind}
    {pointer : Pointer} (pointsTo : pointer.PointsTo pointers earlier kind) {id : Nat}
    (mentioned : id ∈ [pointer.register]) : ∃ line ∈ earlier, line.result = some id := by
  cases List.mem_singleton.1 mentioned
  obtain ⟨line, member, result, _⟩ := pointsTo.defined
  exact ⟨line, member, result⟩

/-- Every register that a well-typed instruction mentions was filled before. -/
theorem Instruction.WellTyped.defined {pointers : Pointers} {texts : List String}
    {earlier : List Line} {instruction : Instruction}
    (wellTyped : instruction.WellTyped pointers texts earlier) {id : Nat}
    (mentioned : id ∈ instruction.mentioned) : ∃ line ∈ earlier, line.result = some id := by
  cases wellTyped with
  | allocate => cases mentioned
  | load address => exact address.filled mentioned
  | store operand address =>
    rcases List.mem_append.1 mentioned with inValue | inTarget
    · exact operand.defined inValue
    · exact address.filled inTarget
  | convert operand _ => exact operand.defined mentioned
  | arithmetic left right _ =>
    rcases List.mem_append.1 mentioned with inFirst | inSecond
    · exact left.defined inFirst
    · exact right.defined inSecond
  | read address _ => exact address.filled mentioned
  | write _ => cases mentioned
  | print operand _ _ => exact operand.defined mentioned

/-- An instruction that writes to storage. -/
def Instruction.IsStore (instruction : Instruction) : Prop :=
  ∃ kind value target alignment, instruction = .store kind value target alignment

theorem Instruction.held?_eq_none_iff {instruction : Instruction} :
    instruction.held? = none ↔ instruction.IsStore := by
  cases instruction <;> simp [held?, IsStore]

/-- A body that fills the registers from one to a count in order, one in each line
but those that store, and that mentions no register before it is filled. -/
structure SingleAssignment (count : Nat) (body : List Line) : Prop where
  numbered : body.filterMap Line.result = List.range' 1 count
  stores : ∀ line ∈ body, line.result = none ↔ line.instruction.IsStore
  defined : ∀ earlier line later, body = earlier ++ line :: later →
    ∀ id ∈ line.instruction.mentioned, ∃ previous ∈ earlier, previous.result = some id

/-- A well-typed body whose registers are numbered is one of single assignment. -/
theorem WellTyped.singleAssignment {pointers : Pointers} {texts : List String} {body : List Line}
    {count : Nat} (wellTyped : WellTyped pointers texts body)
    (numbered : body.filterMap Line.result = List.range' 1 count) :
    SingleAssignment count body := by
  refine ⟨numbered, fun line member => ?_, fun earlier line later equal id mentioned => ?_⟩
  · obtain ⟨earlier, later, equal⟩ := List.append_of_mem member
    have fits := wellTyped earlier line later equal
    rw [← Instruction.held?_eq_none_iff, ← Option.isNone_iff_eq_none, ← Option.isNone_iff_eq_none,
      ← Option.not_isSome, ← Option.not_isSome, fits.result]
  · exact (wellTyped earlier line later equal).instruction.defined mentioned

/-! ### Legible instructions -/

theorem Value.HasKind.legible {earlier : List Line} {kind : Kind} {operand : Operand}
    (hasKind : (Value.of operand).HasKind earlier kind) : operand.Legible := by
  cases operand with
  | register id kind => trivial
  | constant text _ => exact ⟨kind, hasKind⟩

/-- The constants of a well-typed instruction are literals. -/
theorem Instruction.WellTyped.legible {pointers : Pointers} {texts : List String}
    {earlier : List Line} {instruction : Code.Instruction}
    (wellTyped : (Instruction.of pointers instruction).WellTyped pointers texts earlier) :
    instruction.Legible := by
  cases instruction with
  | allocate kind => trivial
  | load kind address => trivial
  | store kind value address =>
    cases wellTyped with
    | store operand _ => exact operand.legible
  | convert conversion operand target =>
    cases wellTyped with
    | convert hasKind _ => exact hasKind.legible
  | arithmetic operator kind first second =>
    cases wellTyped with
    | arithmetic left right _ => exact ⟨left.legible, right.legible⟩
  | call external format argument =>
    rintro given ⟨⟩
    cases given with
    | storage kind address => trivial
    | value operand =>
      cases wellTyped with
      | print hasKind _ _ => exact hasKind.legible

end Assembly

end Stackline
