import Mathlib
import Stackline.Code.External
import Stackline.Code.Kind
import Stackline.Proofs.Code.Pool
import Stackline.Proofs.Text.Lines

/-!
# Formats

How the input and output functions of C read the bytes that they are given as a format: up to
the first zero byte, and directive by directive. A percent sign opens a conversion, which takes
an argument of one kind, unless another percent sign follows at once. Long integers have 64 bits
here. Sets of characters are left out: a bracket is a letter that takes no known kind.

The text of a user is such a format too. `printed?_utf8` says what becomes of it.
-/

namespace Stackline.Code

open Stackline.Text (mapM_map_eq_some)

/-- A piece of a format. A conversion has what stands between its percent sign and its letter,
and lacks the letter if the format ends before it. -/
inductive Directive where
  | plain (byte : UInt8)
  | percent
  | conversion (modifiers : List UInt8) (letter : Option UInt8)
  deriving DecidableEq, Repr

/-- The bytes that can stand before the letter of a conversion: flags, numbers, and sizes. -/
def isModifier (byte : UInt8) : Bool :=
  "-+ #0123456789.*hlLjzt".toList.any fun c => c.toNat.toUInt8 = byte

/-- The directives of a format, behind the start of a conversion if one is open. -/
def directivesFrom : Option (List UInt8) → List UInt8 → List Directive
  | none, [] => []
  | none, byte :: rest =>
    if byte = 0x25 then directivesFrom (some []) rest
    else .plain byte :: directivesFrom none rest
  | some modifiers, [] => [.conversion modifiers none]
  | some modifiers, byte :: rest =>
    if byte = 0x25 ∧ modifiers = [] then .percent :: directivesFrom none rest
    else if isModifier byte then directivesFrom (some (modifiers ++ [byte])) rest
    else .conversion modifiers (some byte) :: directivesFrom none rest

/-- The directives of a format. -/
def directives (format : List UInt8) : List Directive :=
  directivesFrom none format

/-- The part of a stored text that a function of C sees. -/
def visible (stored : List UInt8) : List UInt8 :=
  stored.takeWhile (· ≠ 0)

/-- The kind that a conversion takes, by its sizes and its letter: `d`, `ld`, `f` and `lf` are
known. The output function knows one floating kind, whatever the size. -/
def External.taken? : External → List UInt8 → Option UInt8 → Option Kind
  | _, [], some 0x64 => some .i32
  | _, [0x6c], some 0x64 => some .i64
  | .scanf, [], some 0x66 => some .f32
  | .scanf, [0x6c], some 0x66 => some .f64
  | .printf, [], some 0x66 => some .f64
  | .printf, [0x6c], some 0x66 => some .f64
  | _, _, _ => none

/-- The conversions of a format, by the kinds that they take. -/
def conversions (external : External) (format : List UInt8) : List (Option Kind) :=
  (directives format).filterMap fun directive =>
    match directive with
    | .conversion modifiers letter => some (external.taken? modifiers letter)
    | _ => none

/-- A stored text agrees with what is passed behind it: the function sees all of it, and takes
what is passed and nothing else. -/
structure Agrees (external : External) (stored : List UInt8) (passed : Option Kind) : Prop where
  whole : visible stored ++ [0] = stored
  taken : conversions external (visible stored) = passed.toList.map some

/-- The byte that a directive writes by itself. -/
def Directive.literal? : Directive → Option UInt8
  | .plain byte => some byte
  | .percent => some 0x25
  | .conversion _ _ => none

/-- What is written for a format that takes no arguments. -/
def printed? (format : List UInt8) : Option (List UInt8) :=
  (directives format).mapM Directive.literal?

instance (external : External) (stored : List UInt8) (passed : Option Kind) :
    Decidable (Agrees external stored passed) :=
  decidable_of_iff
    (visible stored ++ [0] = stored ∧
      conversions external (visible stored) = passed.toList.map some)
    ⟨fun ⟨whole, taken⟩ => ⟨whole, taken⟩, fun agrees => ⟨agrees.whole, agrees.taken⟩⟩

/-! ### Patterns -/

/-- The pattern of a kind agrees with storage of the kind. -/
theorem agrees_scanf (kind : Kind) : Agrees .scanf (utf8 kind.pattern ++ [0]) (some kind) := by
  cases kind <;> decide +kernel

/-- The pattern of a kind agrees with a value of the kind, unless it is the narrow floating kind,
of which no values are passed. -/
theorem agrees_printf {kind : Kind} (promoted : kind ≠ .f32) :
    Agrees .printf (utf8 kind.pattern ++ [0]) (some kind) := by
  cases kind with
  | f32 => exact absurd rfl promoted
  | _ => decide +kernel

/-! ### Directives -/

/-- A conversion that is open takes an argument, unless it is a second percent sign. -/
theorem exists_conversion_of_open {modifiers format : List UInt8}
    (opened : modifiers ≠ [] ∨ format.head? ≠ some 0x25) :
    ∃ others letter, .conversion others letter ∈ directivesFrom (some modifiers) format := by
  induction format generalizing modifiers with
  | nil => exact ⟨modifiers, none, .head _⟩
  | cons byte rest inductionHypothesis =>
    unfold directivesFrom
    split_ifs with second modifies
    · simp [second] at opened
    · exact inductionHypothesis (.inl (by simp))
    · exact ⟨modifiers, some byte, .head _⟩

theorem directives_pair (format : List UInt8) :
    directives (0x25 :: 0x25 :: format) = .percent :: directives format := by
  simp [directives, directivesFrom]

/-- Bytes other than the percent sign stand for themselves. -/
theorem directives_append {bytes : List UInt8} (plain : 0x25 ∉ bytes) (format : List UInt8) :
    directives (bytes ++ format) = bytes.map .plain ++ directives format := by
  induction bytes with
  | nil => rfl
  | cons byte rest inductionHypothesis =>
    obtain ⟨head, tail⟩ := List.ne_and_not_mem_of_not_mem_cons plain
    rw [List.cons_append, directives, directivesFrom, if_neg head.symm, ← directives,
      inductionHypothesis tail, List.map_cons, List.cons_append]

example : directives (utf8 "a%%%-5ld%") =
    [.plain 97, .percent, .conversion [45, 53, 108] (some 100), .conversion [] none] := by
  decide +kernel

theorem conversions_eq_nil_iff {external : External} {format : List UInt8} :
    conversions external format = [] ↔
      ∀ modifiers letter, .conversion modifiers letter ∉ directives format := by
  rw [conversions, List.filterMap_eq_nil_iff]
  constructor
  · intro nothing modifiers letter member
    cases nothing _ member
  · rintro nothing (_ | _ | ⟨modifiers, letter⟩) member
    · rfl
    · rfl
    · exact absurd member (nothing modifiers letter)

/-- Nothing is written for a format that takes arguments. -/
theorem conversions_of_printed? {external : External} {format bytes : List UInt8}
    (printed : printed? format = some bytes) : conversions external format = [] := by
  rw [conversions_eq_nil_iff]
  intro modifiers letter
  unfold printed? at printed
  generalize directives format = pieces at printed ⊢
  induction pieces generalizing bytes with
  | nil => exact List.not_mem_nil
  | cons piece rest inductionHypothesis =>
    rw [List.mapM_cons] at printed
    obtain ⟨byte, literal, printed⟩ := Option.bind_eq_some_iff.1 printed
    obtain ⟨others, printed, _⟩ := Option.bind_eq_some_iff.1 printed
    refine List.not_mem_cons_of_ne_of_not_mem ?_ (inductionHypothesis printed)
    rintro rfl
    cases literal

theorem printed?_pair {format bytes : List UInt8} (printed : printed? format = some bytes) :
    printed? (0x25 :: 0x25 :: format) = some (0x25 :: bytes) := by
  unfold printed? at printed ⊢
  rw [directives_pair, List.mapM_cons, printed]
  rfl

theorem printed?_append {bytes format rest : List UInt8} (plain : 0x25 ∉ bytes)
    (printed : printed? format = some rest) :
    printed? (bytes ++ format) = some (bytes ++ rest) := by
  have literal : (bytes.map .plain).mapM Directive.literal? = some (bytes.map id) :=
    mapM_map_eq_some fun _ _ => rfl
  unfold printed? at printed ⊢
  rw [directives_append plain, List.mapM_append, literal, printed, List.map_id]
  rfl

/-! ### Texts -/

theorem encode_of_lt {c : Char} (low : c.toNat < 0x80) :
    String.utf8EncodeChar c = [c.toNat.toUInt8] := by
  exact if_pos (Nat.le_of_lt_succ low)

/-- The bytes of a character that takes more than one lie above all codes of one byte. -/
theorem le_of_mem_encode {c : Char} (high : 0x80 ≤ c.toNat) {byte : UInt8}
    (member : byte ∈ String.utf8EncodeChar c) : 0x80 ≤ byte.toNat := by
  have notLow : ¬c.val.toNat ≤ 0x7f := Nat.not_le.2 high
  simp only [String.utf8EncodeChar, if_neg notLow] at member
  split_ifs at member <;> simp only [List.mem_cons, List.not_mem_nil, or_false] at member <;>
    rcases member with rfl | rfl | rfl | rfl <;> simp only [UInt8.toNat_ofNat'] <;> omega

theorem mem_encode_iff {c other : Char} (low : c.toNat < 0x80) :
    c.toNat.toUInt8 ∈ String.utf8EncodeChar other ↔ other = c := by
  have code : c.toNat.toUInt8.toNat = c.toNat := by
    simp only [Nat.toUInt8_eq, UInt8.toNat_ofNat']
    omega
  constructor
  · intro member
    by_cases single : other.toNat < 0x80
    · rw [encode_of_lt single, List.mem_singleton] at member
      have same := congrArg UInt8.toNat member
      rw [code, Nat.toUInt8_eq, UInt8.toNat_ofNat', Nat.mod_eq_of_lt (by omega)] at same
      exact Char.toNat_inj.1 same.symm
    · have above := le_of_mem_encode (Nat.not_lt.1 single) member
      omega
  · rintro rfl
    rw [encode_of_lt low]
    exact List.mem_singleton_self _

/-- A text with every percent sign written twice. -/
def doubled (text : String) : String :=
  String.ofList (text.toList.flatMap fun c => if c = '%' then ['%', '%'] else [c])

/-- The part of a text before the first zero. -/
def beforeZero (text : String) : String :=
  String.ofList (text.toList.takeWhile (· ≠ '\x00'))

/-- What can be seen of a stored text is what stands before its first zero. -/
theorem visible_utf8 (text : String) : visible (utf8 text ++ [0]) = utf8 (beforeZero text) := by
  unfold utf8 beforeZero visible
  rw [String.toList_ofList]
  induction text.toList with
  | nil => rfl
  | cons c rest inductionHypothesis =>
    by_cases zero : c = '\x00'
    · subst zero
      rfl
    · have nonzero : ∀ byte ∈ String.utf8EncodeChar c, decide (byte ≠ 0) := by
        intro byte member
        rw [decide_eq_true_eq]
        rintro rfl
        exact zero (@mem_encode_iff '\x00' c (by decide) |>.1 member)
      rw [List.flatMap_cons, List.append_assoc, List.takeWhile_append_of_pos nonzero,
        inductionHypothesis, List.takeWhile_cons_of_pos (by simpa using zero), List.flatMap_cons]

/-- A text whose percent signs are doubled is written with one of each pair. -/
theorem printed?_doubled (text : String) : printed? (utf8 (doubled text)) = some (utf8 text) := by
  unfold utf8 doubled
  rw [String.toList_ofList]
  induction text.toList with
  | nil => rfl
  | cons c rest inductionHypothesis =>
    rw [List.flatMap_cons, List.flatMap_append, List.flatMap_cons]
    by_cases percent : c = '%'
    · subst percent
      exact printed?_pair inductionHypothesis
    · rw [if_neg percent, List.flatMap_singleton]
      refine printed?_append (fun member => percent ?_) inductionHypothesis
      exact (@mem_encode_iff '%' c (by decide)).1 member

/-- A text that takes no arguments has doubled percent signs only. -/
theorem exists_doubled {external : External} {text : String}
    (nothing : conversions external (utf8 text) = []) : ∃ shown, text = doubled shown := by
  suffices claim : ∃ shown : List Char,
      text.toList = shown.flatMap fun c => if c = '%' then ['%', '%'] else [c] by
    obtain ⟨shown, same⟩ := claim
    refine ⟨String.ofList shown, ?_⟩
    rw [doubled, String.toList_ofList, ← same, String.ofList_toList]
  rw [conversions_eq_nil_iff] at nothing
  unfold utf8 at nothing
  generalize text.toList = chars at nothing ⊢
  -- The characters are taken one by one, but for a percent sign, which needs the next one.
  induction chars using List.twoStepInduction with
  | nil => exact ⟨[], rfl⟩
  | singleton c =>
    by_cases percent : c = '%'
    · subst percent
      exact absurd (List.mem_singleton_self _) (nothing [] none)
    · exact ⟨[c], by simp [percent]⟩
  | cons_cons c next rest behindPair behindOne =>
    by_cases percent : c = '%'
    · subst percent
      by_cases second : next = '%'
      · subst second
        obtain ⟨shown, rfl⟩ := behindPair fun modifiers letter member =>
          nothing modifiers letter (by
            exact directives_pair _ ▸ List.mem_cons_of_mem _ member)
        exact ⟨'%' :: shown, rfl⟩
      · have other : (String.utf8EncodeChar next ++
            rest.flatMap String.utf8EncodeChar).head? ≠ some 0x25 := by
          rw [List.head?_append_of_ne_nil _ String.utf8EncodeChar_ne_nil]
          intro head
          exact second ((@mem_encode_iff '%' next (by decide)).1 (List.mem_of_head? head))
        obtain ⟨modifiers, letter, member⟩ := @exists_conversion_of_open [] _ (.inr other)
        exact absurd member (nothing modifiers letter)
    · have plain : 0x25 ∉ String.utf8EncodeChar c :=
        fun member => percent ((@mem_encode_iff '%' c (by decide)).1 member)
      rw [List.flatMap_cons, directives_append plain] at nothing
      obtain ⟨shown, same⟩ := behindOne next fun modifiers letter member =>
        nothing modifiers letter (List.mem_append_right _ member)
      exact ⟨c :: shown, by rw [same, List.flatMap_cons, if_neg percent, List.singleton_append]⟩

theorem conversions_utf8_eq_nil_iff {external : External} {text : String} :
    conversions external (utf8 text) = [] ↔ ∃ shown, text = doubled shown := by
  constructor
  · exact exists_doubled
  · rintro ⟨shown, rfl⟩
    exact conversions_of_printed? (printed?_doubled shown)

theorem printed?_utf8 {text : String} {bytes : List UInt8} :
    printed? (utf8 text) = some bytes ↔ ∃ shown, text = doubled shown ∧ bytes = utf8 shown := by
  constructor
  · intro printed
    obtain ⟨shown, rfl⟩ := exists_doubled (@conversions_of_printed? .printf _ _ printed)
    rw [printed?_doubled, Option.some.injEq] at printed
    exact ⟨shown, rfl, printed.symm⟩
  · rintro ⟨shown, rfl, rfl⟩
    exact printed?_doubled shown

theorem beforeZero_eq_iff {text : String} : beforeZero text = text ↔ '\x00' ∉ text.toList := by
  rw [← String.toList_inj, beforeZero, String.toList_ofList, List.takeWhile_eq_self_iff]
  simp only [decide_eq_true_eq]
  constructor
  · intro nonzero member
    exact nonzero _ member rfl
  · rintro nowhere c member rfl
    exact nowhere member

/-- Doubling adds one character for each percent sign. -/
theorem length_doubled (text : String) :
    (doubled text).toList.length = text.toList.length + text.toList.count '%' := by
  rw [doubled, String.toList_ofList]
  induction text.toList with
  | nil => rfl
  | cons c rest inductionHypothesis =>
    rw [List.flatMap_cons, List.length_append, inductionHypothesis, List.length_cons,
      List.count_cons]
    by_cases percent : c = '%'
    · simp only [percent, if_true, beq_self_eq_true, List.length_cons, List.length_nil]
      omega
    · simp only [percent, if_false, beq_iff_eq, List.length_singleton]
      omega

theorem doubled_of_not_mem {text : String} (plain : '%' ∉ text.toList) : doubled text = text := by
  have kept : ∀ c ∈ text.toList, (if c = '%' then ['%', '%'] else [c]) = [c] := by
    intro c member
    refine if_neg ?_
    rintro rfl
    exact plain member
  rw [doubled, List.flatMap_congr kept, List.flatMap_singleton', String.ofList_toList]

/-- A stored text agrees with passing nothing exactly if it lacks the zero and its percent signs
are doubled. -/
theorem agrees_utf8_iff {text : String} :
    Agrees .printf (utf8 text ++ [0]) none ↔
      '\x00' ∉ text.toList ∧ ∃ shown, text = doubled shown := by
  rw [← beforeZero_eq_iff]
  constructor
  · rintro ⟨whole, taken⟩
    rw [visible_utf8, List.append_left_inj] at whole
    have same := utf8_injective whole
    rw [visible_utf8, same] at taken
    exact ⟨same, exists_doubled taken⟩
  · rintro ⟨same, doubled⟩
    refine ⟨by rw [visible_utf8, same], ?_⟩
    rw [visible_utf8, same]
    exact conversions_utf8_eq_nil_iff.2 doubled

/-- A stored text is written as it is exactly if it has neither a zero nor a percent sign. -/
theorem printed?_visible_eq_iff {text : String} :
    printed? (visible (utf8 text ++ [0])) = some (utf8 text) ↔
      '\x00' ∉ text.toList ∧ '%' ∉ text.toList := by
  rw [visible_utf8, printed?_utf8, ← beforeZero_eq_iff]
  constructor
  · rintro ⟨shown, seen, same⟩
    obtain rfl := utf8_injective same
    have longer := length_doubled text
    have shorter : (beforeZero text).toList.length ≤ text.toList.length := by
      rw [beforeZero, String.toList_ofList]
      exact (List.takeWhile_sublist _).length_le
    rw [seen] at shorter
    have plain : '%' ∉ text.toList := List.count_eq_zero.1 (by omega)
    exact ⟨seen.trans (doubled_of_not_mem plain), plain⟩
  · rintro ⟨same, plain⟩
    exact ⟨text, same.trans (doubled_of_not_mem plain).symm, rfl⟩

end Stackline.Code
