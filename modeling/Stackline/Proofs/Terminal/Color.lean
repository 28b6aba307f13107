import Mathlib
import Stackline.Proofs.Except
import Stackline.Proofs.Text.Bytes
import Stackline.Terminal.Ink

/-!
# Colours in hexadecimal

What a text with a number sign in front is read as. Six hexadecimal digits are read as the colour
that they spell. A plus sign is taken in the place of the first digit of a part, too, and a
character that lies across the end of a part is not answered at all.
-/

namespace Stackline.Terminal

open Stackline.Text

/-! ### Digits -/

/-- A hexadecimal digit, small or capital, with its value. -/
inductive HexDigit : Char → Nat → Prop where
  | decimal {c : Char} (low : '0' ≤ c) (high : c ≤ '9') : HexDigit c (c.toNat - '0'.toNat)
  | small {c : Char} (low : 'a' ≤ c) (high : c ≤ 'f') : HexDigit c (c.toNat - 'a'.toNat + 10)
  | capital {c : Char} (low : 'A' ≤ c) (high : c ≤ 'F') : HexDigit c (c.toNat - 'A'.toNat + 10)

/-- Two hexadecimal digits with their value. -/
inductive HexPair : List Char → UInt8 → Prop where
  | digits {high low : Char} {first second : Nat} (highDigit : HexDigit high first)
      (lowDigit : HexDigit low second) : HexPair [high, low] (16 * first + second).toUInt8

/-- What is read as a part of a colour: two digits, or a digit with a plus sign. -/
inductive Spells : List Char → UInt8 → Prop where
  | pair {text : List Char} {value : UInt8} (digits : HexPair text value) : Spells text value
  | signed {low : Char} {second : Nat} (digit : HexDigit low second) :
      Spells ['+', low] second.toUInt8

theorem HexDigit.bounds {c : Char} {value : Nat} (digit : HexDigit c value) :
    0x30 ≤ c.toNat ∧ c.toNat ≤ 0x66 ∧ value < 16 := by
  cases digit with
  | decimal low high =>
    have bounds : 0x30 ≤ c.toNat ∧ c.toNat ≤ 0x39 := ⟨low, high⟩
    have origin : '0'.toNat = 0x30 := rfl
    omega
  | small low high =>
    have bounds : 0x61 ≤ c.toNat ∧ c.toNat ≤ 0x66 := ⟨low, high⟩
    have origin : 'a'.toNat = 0x61 := rfl
    omega
  | capital low high =>
    have bounds : 0x41 ≤ c.toNat ∧ c.toNat ≤ 0x46 := ⟨low, high⟩
    have origin : 'A'.toNat = 0x41 := rfl
    omega

/-- The digits of the reader are the hexadecimal ones, and have their values. -/
theorem hexDigit_iff {c : Char} {value : Nat} :
    HexDigit c value ↔ Color.isDigitOf 16 c ∧ Color.digitValue c = value := by
  have isDigit : c.isDigit = true ↔ 0x30 ≤ c.toNat ∧ c.toNat ≤ 0x39 := by
    simp [Char.isDigit, UInt32.le_iff_toNat_le]
  have isLower : c.isLower = true ↔ 0x61 ≤ c.toNat ∧ c.toNat ≤ 0x7a := by
    simp [Char.isLower, UInt32.le_iff_toNat_le]
  have isUpper : c.isUpper = true ↔ 0x41 ≤ c.toNat ∧ c.toNat ≤ 0x5a := by
    simp [Char.isUpper, UInt32.le_iff_toNat_le]
  have a : 'a'.toNat = 0x61 := rfl
  have capitalA : 'A'.toNat = 0x41 := rfl
  simp only [Color.isDigitOf, Color.digitValue, Char.isAlphanum, Char.isAlpha, Bool.and_eq_true,
    Bool.or_eq_true, decide_eq_true_eq, isDigit, isLower, isUpper]
  constructor
  · intro digit
    have value := digit.bounds.2.2
    cases digit with
    | decimal low high =>
      have bounds : 0x30 ≤ c.toNat ∧ c.toNat ≤ 0x39 := ⟨low, high⟩
      rw [if_pos bounds]
      exact ⟨⟨.inr bounds, value⟩, rfl⟩
    | small low high =>
      have bounds : 0x61 ≤ c.toNat ∧ c.toNat ≤ 0x66 := ⟨low, high⟩
      rw [if_neg (by omega), if_pos (by omega)]
      exact ⟨⟨by omega, value⟩, rfl⟩
    | capital low high =>
      have bounds : 0x41 ≤ c.toNat ∧ c.toNat ≤ 0x46 := ⟨low, high⟩
      rw [if_neg (by omega), if_neg (by omega)]
      exact ⟨⟨by omega, value⟩, rfl⟩
  · rintro ⟨⟨kind, bound⟩, rfl⟩
    split_ifs at bound ⊢ with decimal lower
    · exact .decimal decimal.1 decimal.2
    · have high : c.toNat ≤ 0x66 := by omega
      exact .small lower.1 high
    · have bounds : 0x41 ≤ c.toNat ∧ c.toNat ≤ 0x46 := by omega
      exact .capital bounds.1 bounds.2

theorem HexDigit.utf8Size {c : Char} {value : Nat} (digit : HexDigit c value) :
    c.utf8Size = 1 := by
  have bound : c.toNat ≤ 0x7f := digit.bounds.2.1.trans (by decide)
  exact Char.utf8Size_eq_one_iff.2 (UInt32.le_iff_toNat_le.2 bound)

/-! ### Parts -/

theorem HexDigit.ne_plus {c : Char} {value : Nat} (digit : HexDigit c value) : c ≠ '+' := by
  rintro rfl
  exact absurd digit.bounds.1 (by decide)

theorem Spells.byteSize {text : List Char} {value : UInt8} (spells : Spells text value) :
    byteSize text = 2 := by
  cases spells with
  | pair digits =>
    cases digits with
    | digits high low => simp [high.utf8Size, low.utf8Size]
  | signed digit =>
    have plus : '+'.utf8Size = 1 := rfl
    simp [plus, digit.utf8Size]

/-- Two digits are what is read without a plus sign. -/
theorem hexPair_iff {text : List Char} {value : UInt8} :
    HexPair text value ↔ Spells text value ∧ '+' ∉ text := by
  constructor
  · intro digits
    refine ⟨.pair digits, ?_⟩
    cases digits with
    | digits high low => simp [high.ne_plus.symm, low.ne_plus.symm]
  · rintro ⟨spells, unsigned⟩
    cases spells with
    | pair digits => exact digits
    | signed digit => exact absurd List.mem_cons_self unsigned

/-- The digits of a component, behind its sign. -/
def unsigned (text : List Char) : List Char :=
  if text.head? = some '+' then text.tail else text

/-- The number that digits stand for. -/
def numberOf (base : Nat) (digits : List Char) : Nat :=
  digits.foldl (fun value digit => base * value + Color.digitValue digit) 0

/-- A component has digits, and its value fits a byte. -/
theorem component?_eq_some_iff {base : Nat} {text : List Char} {value : UInt8} :
    Color.component? base text = some value ↔
      unsigned text ≠ [] ∧ (∀ c ∈ unsigned text, Color.isDigitOf base c) ∧
        numberOf base (unsigned text) < 256 ∧ (numberOf base (unsigned text)).toUInt8 = value := by
  change (if (unsigned text).isEmpty || !(unsigned text).all (Color.isDigitOf base) then none
    else if numberOf base (unsigned text) < 256 then
      some (numberOf base (unsigned text)).toUInt8 else none) = some value ↔ _
  generalize unsigned text = digits
  constructor
  · intro read
    split_ifs at read with foreign bound
    cases read
    simp only [Bool.or_eq_true, List.isEmpty_iff, Bool.not_eq_true', List.all_eq_false,
      not_or, not_exists, not_and, not_not] at foreign
    exact ⟨foreign.1, foreign.2, bound, rfl⟩
  · rintro ⟨given, isDigit, bound, rfl⟩
    rw [if_neg (by simpa [given] using isDigit), if_pos bound]

theorem component?_signed {low : Char} {value : UInt8} :
    Color.component? 16 ['+', low] = some value ↔ Spells ['+', low] value := by
  have digits : unsigned ['+', low] = [low] := rfl
  have number : numberOf 16 [low] = Color.digitValue low := by simp [numberOf]
  rw [component?_eq_some_iff, digits, number]
  constructor
  · rintro ⟨_, isDigit, _, rfl⟩
    exact .signed (hexDigit_iff.2 ⟨isDigit low (by simp), rfl⟩)
  · intro spells
    cases spells with
    | pair pair =>
      cases pair with
      | digits high _ => exact absurd rfl high.ne_plus
    | signed digit =>
      have bound := digit.bounds.2.2
      obtain ⟨isDigit, rfl⟩ := hexDigit_iff.1 digit
      exact ⟨by simp, by simpa using isDigit, by omega, rfl⟩

theorem component?_digits {high low : Char} {value : UInt8} (bare : high ≠ '+') :
    Color.component? 16 [high, low] = some value ↔ Spells [high, low] value := by
  have digits : unsigned [high, low] = [high, low] := by simp [unsigned, bare]
  have number : numberOf 16 [high, low] = 16 * Color.digitValue high + Color.digitValue low := by
    simp [numberOf]
  rw [component?_eq_some_iff, digits, number]
  constructor
  · rintro ⟨_, isDigit, _, rfl⟩
    have highDigit := hexDigit_iff.2 ⟨isDigit high (by simp), rfl⟩
    have lowDigit := hexDigit_iff.2 ⟨isDigit low (by simp), rfl⟩
    exact .pair (.digits highDigit lowDigit)
  · intro spells
    cases spells with
    | pair pair =>
      cases pair with
      | digits highDigit lowDigit =>
        have bound := highDigit.bounds.2.2
        have boundToo := lowDigit.bounds.2.2
        obtain ⟨isHigh, rfl⟩ := hexDigit_iff.1 highDigit
        obtain ⟨isLow, rfl⟩ := hexDigit_iff.1 lowDigit
        exact ⟨by simp, by simp [isHigh, isLow], by omega, rfl⟩
    | signed digit => exact absurd rfl bare

/-- A character of two bytes is no component. -/
theorem component?_wide {c : Char} {value : UInt8} (wide : c.utf8Size = 2) :
    Color.component? 16 [c] ≠ some value := by
  intro read
  obtain ⟨given, isDigit, _⟩ := component?_eq_some_iff.1 read
  by_cases sign : c = '+'
  · subst sign
    exact given rfl
  · have digits : unsigned [c] = [c] := by simp [unsigned, sign]
    rw [digits] at isDigit
    have narrow := (hexDigit_iff.2 ⟨isDigit c (by simp), rfl⟩).utf8Size
    omega

/-- Two bytes are read exactly if they spell a part. -/
theorem component?_pair {text : List Char} {value : UInt8} (sized : byteSize text = 2) :
    Color.component? 16 text = some value ↔ Spells text value := by
  match text with
  | [] => cases sized
  | [c] =>
    refine iff_of_false (component?_wide (by simpa using sized)) ?_
    rintro (⟨⟨⟩⟩ | _)
  | [high, low] =>
    by_cases sign : high = '+'
    · subst sign
      exact component?_signed
    · exact component?_digits sign
  | first :: second :: third :: rest =>
    have positive := first.utf8Size_pos
    have positiveToo := second.utf8Size_pos
    have positiveThree := third.utf8Size_pos
    simp only [byteSize_cons] at sized
    omega

/-- The next part is read exactly if it is spelled out. -/
theorem hexPair_eq_ok_iff {text rest : List Char} {value : UInt8} :
    Color.hexPair text = .ok (value, rest) ↔ ∃ pair, text = pair ++ rest ∧ Spells pair value := by
  unfold Color.hexPair
  constructor
  · intro read
    split at read
    · cases read
    · rename_i pair behind cut
      obtain ⟨rfl, sized⟩ := takeBytes?_eq_some_iff.1 cut
      split at read
      · cases read
      · rename_i component
        cases read
        exact ⟨pair, rfl, (component?_pair sized).1 component⟩
  · rintro ⟨pair, rfl, spells⟩
    have cut : takeBytes? 2 (pair ++ rest) = some (pair, rest) :=
      takeBytes?_eq_some_iff.2 ⟨rfl, spells.byteSize⟩
    have component := (component?_pair spells.byteSize).2 spells
    simp only [cut, component]

/-- A part that is spelled out is read, and what follows it is left. -/
theorem hexPair_append {part : List Char} {value : UInt8} (spells : Spells part value)
    (rest : List Char) : Color.hexPair (part ++ rest) = .ok (value, rest) :=
  hexPair_eq_ok_iff.2 ⟨part, rfl, spells⟩

/-- The next part is not answered exactly if a character lies across its end. -/
theorem hexPair_eq_split_iff {text : List Char} (long : 2 ≤ byteSize text) :
    Color.hexPair text = .error .splitCharacter ↔ Cuts 2 text := by
  have none : takeBytes? 2 text = none ↔ Cuts 2 text := by
    rw [takeBytes?_eq_none_iff, or_iff_right (by omega)]
  rw [← none]
  unfold Color.hexPair
  cases takeBytes? 2 text with
  | none => simp
  | some cut =>
    simp only [reduceCtorEq, iff_false]
    cases Color.component? 16 cut.1 <;> simp

/-! ### Colours -/

/-- A colour by a number sign and a text for each of its parts. -/
def InParts (Part : List Char → UInt8 → Prop) (spec : String) (color : Color) : Prop :=
  ∃ red green blue, spec.toList = '#' :: (red ++ (green ++ blue)) ∧
    Part red color.r ∧ Part green color.g ∧ Part blue color.b

/-- A text of the right size in which, behind parts that can be read, a character lies across the
end of the next part. -/
def Torn (spec : String) : Prop :=
  spec.utf8ByteSize = 7 ∧ ∃ parts rest, spec.toList = '#' :: (List.flatten parts ++ rest) ∧
    (∀ part ∈ parts, ∃ value, Spells part value) ∧ Cuts 2 rest

theorem byteSize_digits {spec : String} {digits : List Char} (marked : spec.toList = '#' :: digits) :
    spec.utf8ByteSize = 7 ↔ byteSize digits = 6 := by
  have sign : '#'.utf8Size = 1 := rfl
  rw [← byteSize_toList, marked, byteSize_cons, sign]
  omega

/-- What is read behind the number sign of a text of the right size. -/
theorem ofHex_marked {spec : String} {digits : List Char} (marked : spec.toList = '#' :: digits)
    (sized : byteSize digits = 6) :
    Color.ofHex spec = (do
      let (r, digits) ← Color.hexPair digits
      let (g, digits) ← Color.hexPair digits
      let (b, _) ← Color.hexPair digits
      return ⟨r, g, b⟩) := by
  unfold Color.ofHex
  rw [marked]
  exact if_pos ((byteSize_digits marked).2 sized)

/-- Other texts are not looked at. -/
theorem ofHex_unsized {spec : String} {digits : List Char} (marked : spec.toList = '#' :: digits)
    (unsized : byteSize digits ≠ 6) : Color.ofHex spec = .error .malformedHex := by
  unfold Color.ofHex
  rw [marked]
  exact if_neg (mt (byteSize_digits marked).1 unsized)

theorem ofHex_eq_ok_iff {spec : String} {digits : List Char} (marked : spec.toList = '#' :: digits)
    {color : Color} : Color.ofHex spec = .ok color ↔ InParts Spells spec color := by
  constructor
  · intro read
    by_cases sized : byteSize digits = 6
    · rw [ofHex_marked marked sized] at read
      obtain ⟨⟨r, behindRed⟩, readRed, read⟩ := bind_eq_ok_iff.1 read
      obtain ⟨⟨g, behindGreen⟩, readGreen, read⟩ := bind_eq_ok_iff.1 read
      obtain ⟨⟨b, behindBlue⟩, readBlue, read⟩ := bind_eq_ok_iff.1 read
      cases read
      obtain ⟨red, rfl, spellsRed⟩ := hexPair_eq_ok_iff.1 readRed
      obtain ⟨green, rfl, spellsGreen⟩ := hexPair_eq_ok_iff.1 readGreen
      obtain ⟨blue, rfl, spellsBlue⟩ := hexPair_eq_ok_iff.1 readBlue
      have rest : behindBlue = [] := by
        apply eq_nil_of_byteSize
        simp only [byteSize_append, spellsRed.byteSize, spellsGreen.byteSize,
          spellsBlue.byteSize] at sized
        omega
      rw [rest, List.append_nil] at marked
      exact ⟨red, green, blue, marked, spellsRed, spellsGreen, spellsBlue⟩
    · rw [ofHex_unsized marked sized] at read
      cases read
  · rintro ⟨red, green, blue, given, spellsRed, spellsGreen, spellsBlue⟩
    obtain rfl := List.cons_injective (marked.symm.trans given)
    have sized : byteSize (red ++ (green ++ blue)) = 6 := by
      rw [byteSize_append, byteSize_append, spellsRed.byteSize, spellsGreen.byteSize,
        spellsBlue.byteSize]
    rw [ofHex_marked marked sized]
    refine bind_eq_ok_iff.2 ⟨_, hexPair_append spellsRed _, ?_⟩
    refine bind_eq_ok_iff.2 ⟨_, hexPair_append spellsGreen _, ?_⟩
    have last := hexPair_append spellsBlue []
    rw [List.append_nil] at last
    exact bind_eq_ok_iff.2 ⟨_, last, rfl⟩

theorem ofHex_eq_split_iff {spec : String} {digits : List Char}
    (marked : spec.toList = '#' :: digits) :
    Color.ofHex spec = .error .splitCharacter ↔ Torn spec := by
  constructor
  · intro failed
    by_cases sized : byteSize digits = 6
    · refine ⟨(byteSize_digits marked).2 sized, ?_⟩
      rw [ofHex_marked marked sized] at failed
      rcases bind_eq_error_iff.1 failed with cut | ⟨⟨r, behindRed⟩, readRed, failedBehind⟩
      · exact ⟨[], digits, marked, by simp, (hexPair_eq_split_iff (by omega)).1 cut⟩
      obtain ⟨red, rfl, spellsRed⟩ := hexPair_eq_ok_iff.1 readRed
      rw [byteSize_append, spellsRed.byteSize] at sized
      rcases bind_eq_error_iff.1 failedBehind with cut | ⟨⟨g, behindGreen⟩, readGreen, failedLast⟩
      · exact ⟨[red], behindRed, by simpa using marked, by simpa using ⟨r, spellsRed⟩,
          (hexPair_eq_split_iff (by omega)).1 cut⟩
      obtain ⟨green, rfl, spellsGreen⟩ := hexPair_eq_ok_iff.1 readGreen
      rw [byteSize_append, spellsGreen.byteSize] at sized
      rcases bind_eq_error_iff.1 failedLast with cut | ⟨_, _, impossible⟩
      · exact ⟨[red, green], behindGreen, by simpa using marked,
          by simpa using ⟨⟨r, spellsRed⟩, ⟨g, spellsGreen⟩⟩,
          (hexPair_eq_split_iff (by omega)).1 cut⟩
      · cases impossible
    · rw [ofHex_unsized marked sized] at failed
      cases failed
  · rintro ⟨size, parts, rest, given, spelled, cuts⟩
    have sized := (byteSize_digits marked).1 size
    have long := cuts.lt_byteSize
    have cut := (hexPair_eq_split_iff long.le).2 cuts
    obtain rfl := List.cons_injective (marked.symm.trans given)
    rw [ofHex_marked marked sized]
    -- What is cut has more than two of the six bytes, so at most one part stands before it.
    match parts with
    | [] => exact bind_eq_error_iff.2 (.inl cut)
    | [red] =>
      obtain ⟨r, spellsRed⟩ := spelled red (by simp)
      have readRed := hexPair_append spellsRed rest
      rw [List.flatten_singleton]
      refine bind_eq_error_iff.2 (.inr ⟨_, readRed, ?_⟩)
      exact bind_eq_error_iff.2 (.inl cut)
    | red :: green :: others =>
      obtain ⟨_, spellsRed⟩ := spelled red (by simp)
      obtain ⟨_, spellsGreen⟩ := spelled green (by simp)
      simp only [List.flatten_cons, byteSize_append, spellsRed.byteSize,
        spellsGreen.byteSize] at sized
      omega

theorem parse_marked {spec : String} {digits : List Char} (marked : spec.toList = '#' :: digits) :
    Color.parse spec = Color.ofHex spec :=
  if_pos (by rw [marked, List.head?_cons])

/-- A colour is not answered exactly if its text is torn. -/
theorem parse_eq_split_iff {spec : String} :
    Color.parse spec = .error .splitCharacter ↔ Torn spec := by
  by_cases sign : spec.toList.head? = some '#'
  · obtain ⟨digits, marked⟩ := List.head?_eq_some_iff.1 sign
    rw [parse_marked marked, ofHex_eq_split_iff marked]
  · constructor
    · intro failed
      rw [Color.parse, if_neg sign, Color.ofDecimal] at failed
      split at failed <;> cases failed
    · rintro ⟨_, _, _, marked, _⟩
      rw [marked] at sign
      exact absurd rfl sign

/-- A text that is to be written in a colour that cannot be read is left as it is, unless the colour
is torn. -/
theorem colorNamed_of_unreadable {spec : String}
    (unreadable : ∀ color, Color.parse spec ≠ .ok color) (ink : Ink) (text : String) :
    (¬ Torn spec → ink.colorNamed spec text = .ok text) ∧
      (Torn spec → ink.colorNamed spec text = .error .splitCharacter) := by
  rw [← parse_eq_split_iff]
  unfold Ink.colorNamed
  cases read : Color.parse spec with
  | ok color => exact absurd read (unreadable color)
  | error error => cases error <;> simp

/-- Two digits for each part is what is read without a plus sign. -/
theorem inParts_hexPair_iff {spec : String} {color : Color} :
    InParts HexPair spec color ↔ InParts Spells spec color ∧ '+' ∉ spec.toList := by
  constructor
  · rintro ⟨red, green, blue, marked, redDigits, greenDigits, blueDigits⟩
    rw [hexPair_iff] at redDigits greenDigits blueDigits
    refine ⟨⟨red, green, blue, marked, redDigits.1, greenDigits.1, blueDigits.1⟩, ?_⟩
    simp [marked, redDigits.2, greenDigits.2, blueDigits.2]
  · rintro ⟨⟨red, green, blue, marked, spellsRed, spellsGreen, spellsBlue⟩, bare⟩
    simp only [marked, List.mem_cons, List.mem_append, not_or] at bare
    obtain ⟨_, bareRed, bareGreen, bareBlue⟩ := bare
    exact ⟨red, green, blue, marked, hexPair_iff.2 ⟨spellsRed, bareRed⟩,
      hexPair_iff.2 ⟨spellsGreen, bareGreen⟩, hexPair_iff.2 ⟨spellsBlue, bareBlue⟩⟩

/-- A text with a number sign in front is read as a colour exactly if it spells one in three parts.
If it has no plus sign, these are three pairs of hexadecimal digits. No answer is given exactly if
the text is torn. A text that is to be written in a colour that cannot be read is left as it is,
unless that colour is torn. -/
theorem hex_colors_answered (spec : String) :
    (spec.toList.head? = some '#' →
      ∀ color, (Color.parse spec = .ok color ↔ InParts Spells spec color) ∧
        (InParts HexPair spec color ↔ Color.parse spec = .ok color ∧ '+' ∉ spec.toList)) ∧
    (Color.parse spec = .error .splitCharacter ↔ Torn spec) ∧
    ((∀ color, Color.parse spec ≠ .ok color) → ∀ (ink : Ink) (text : String),
      (¬ Torn spec → ink.colorNamed spec text = .ok text) ∧
        (Torn spec → ink.colorNamed spec text = .error .splitCharacter)) := by
  refine ⟨?_, parse_eq_split_iff, colorNamed_of_unreadable⟩
  intro sign color
  obtain ⟨digits, marked⟩ := List.head?_eq_some_iff.1 sign
  have read := @ofHex_eq_ok_iff spec digits marked color
  rw [← parse_marked marked] at read
  exact ⟨read, by rw [read, inParts_hexPair_iff]⟩

theorem hex_colors_answered_mixed_case :
    InParts HexPair "#A0b1C2" ⟨0xa0, 0xb1, 0xc2⟩ ∧
      Ink.ansi.colorNamed "#zz0000" "plain" = .ok "plain" := by
  obtain ⟨read, _, _⟩ := hex_colors_answered "#A0b1C2"
  obtain ⟨_, torn, unread⟩ := hex_colors_answered "#zz0000"
  have failed : Color.parse "#zz0000" = .error .badHexDigits := by decide
  constructor
  · exact (read (by decide) _).2.2 ⟨by decide, by decide⟩
  · refine (unread ?_ .ansi "plain").1 ?_
    · rw [failed]
      exact nofun
    · rw [← torn, failed]
      exact nofun

/-- Plus signs are taken for digits, and a character across two parts is not answered, where the
text was to be left as it is. -/
theorem hex_colors_can_slip :
    (Color.parse "#+1+2+3" = .ok ⟨1, 2, 3⟩ ∧ ¬ ∃ color, InParts HexPair "#+1+2+3" color) ∧
      Color.parse "#0é000" = .error .splitCharacter ∧
      Ink.plain.colorNamed "#0é000" "x" ≠ .ok "x" := by
  refine ⟨⟨by decide, ?_⟩, by decide, by decide⟩
  rintro ⟨color, digits⟩
  have bare := (inParts_hexPair_iff.1 digits).2
  exact absurd bare (by decide)

end Stackline.Terminal
