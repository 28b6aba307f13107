import Stackline.Code.Kind
import Stackline.Number.Constant

/-!
# Well-formed numerals and literals

A numeral is well formed if its parts are what their names say: nonempty runs of
digits, a mark and a sign. Scanning only finds such numerals, and finds each of them
(`wellFormed_scan?`, `scan?_chars`). A literal is the text of a constant: an integer
numeral for an integer, and for a floating-point number a numeral with a fraction or
sixteen hexadecimal digits. Every real number that a script can push is spelled as a
literal (`literal_constantText`).
-/

namespace Stackline.Number

open Stackline.Code

/-- A nonempty run of decimal digits. -/
def Digits (digits : List Char) : Prop :=
  digits ≠ [] ∧ ∀ c ∈ digits, c.isDigit

/-- An exponent whose parts are what their names say. -/
structure Exponent.WellFormed (exponent : Exponent) : Prop where
  mark : exponent.mark = 'e' ∨ exponent.mark = 'E'
  sign : ∀ c ∈ exponent.sign, c = '-' ∨ c = '+'
  digits : Digits exponent.digits

namespace Numeral

/-- A numeral whose parts are what their names say. -/
structure WellFormed (numeral : Numeral) : Prop where
  whole : Digits numeral.whole
  fraction : ∀ digits ∈ numeral.fraction, Digits digits
  exponent : ∀ exponent ∈ numeral.exponent, exponent.WellFormed

theorem digits_scanDigits? {input digits rest : List Char}
    (scanned : scanDigits? input = some (digits, rest)) : Digits digits := by
  refine ⟨(chars_scanDigits? scanned).2, ?_⟩
  unfold scanDigits? at scanned
  split at scanned
  · cases scanned
  · cases scanned
    intro c member
    exact List.all_eq_true.1 List.all_takeWhile c member

theorem wellFormed_scanExponent {input rest : List Char} {exponent : Exponent}
    (scanned : scanExponent input = (some exponent, rest)) : exponent.WellFormed := by
  unfold scanExponent at scanned
  split at scanned
  · rename_i mark afterMark
    split at scanned
    · rename_i isMark
      dsimp only at scanned
      split at scanned
      · rename_i digits afterDigits digitsScanned
        cases scanned
        refine ⟨isMark, ?_, digits_scanDigits? digitsScanned⟩
        intro c member
        unfold scanSign at member
        split at member <;> cases member <;> simp
      · cases scanned
    · cases scanned
  · cases scanned

/-- Scanning only finds well-formed numerals. -/
theorem wellFormed_scan? {input rest : List Char} {numeral : Numeral}
    (scanned : scan? input = some (numeral, rest)) : numeral.WellFormed := by
  unfold scan? at scanned
  dsimp only at scanned
  split at scanned
  · cases scanned
  · rename_i whole afterWhole wholeScanned
    cases scanned
    refine ⟨digits_scanDigits? wholeScanned, ?_, ?_⟩
    · intro digits member
      dsimp only at member
      unfold scanFraction at member
      split at member
      · split at member
        · rename_i digitsScanned
          cases member
          exact digits_scanDigits? digitsScanned
        · cases member
      · cases member
    · intro exponent member
      dsimp only at member
      exact wellFormed_scanExponent (Prod.ext member rfl)

/-! ### Well-formed numerals are scanned -/

theorem scanDigits?_append_of_digits {digits : List Char} (isDigits : Digits digits)
    (others : List Char) (stop : ∀ c ∈ others.head?, c.isDigit = false) :
    scanDigits? (digits ++ others) = some (digits, others) := by
  obtain ⟨nonempty, all⟩ := isDigits
  have behind : others.takeWhile Char.isDigit = [] ∧ others.dropWhile Char.isDigit = others := by
    cases others with
    | nil => exact ⟨rfl, rfl⟩
    | cons c rest => simp [stop c rfl]
  rw [scanDigits?, List.takeWhile_append_of_pos all, List.dropWhile_append_of_pos all, behind.1,
    behind.2, List.append_nil]
  split
  · contradiction
  · rfl

theorem scanSign_of_digits {sign : Option Char} {digits : List Char}
    (isSign : ∀ c ∈ sign, c = '-' ∨ c = '+') (isDigits : Digits digits) :
    scanSign (sign.toList ++ digits) = (sign, digits) := by
  cases sign with
  | none =>
    obtain ⟨c, rest, rfl⟩ := List.exists_cons_of_ne_nil isDigits.1
    have digit : c.isDigit := isDigits.2 c (.head _)
    have notMinus : c ≠ '-' := by
      rintro rfl
      cases digit
    have notPlus : c ≠ '+' := by
      rintro rfl
      cases digit
    simp [scanSign, notMinus, notPlus]
  | some c =>
    rcases isSign c rfl with rfl | rfl <;> rfl

theorem scanExponent_of_wellFormed {exponent : Option Exponent}
    (wellFormed : ∀ part ∈ exponent, part.WellFormed) :
    scanExponent (exponentChars exponent) = (exponent, []) := by
  cases exponent with
  | none => rfl
  | some part =>
    obtain ⟨mark, sign, digits⟩ := part
    obtain ⟨isMark, isSign, isDigits⟩ := wellFormed _ rfl
    have scanned := scanDigits?_append_of_digits isDigits [] (by simp)
    rw [List.append_nil] at scanned
    simp only [exponentChars, Exponent.chars, List.cons_append, scanExponent,
      scanSign_of_digits isSign isDigits, scanned]
    exact if_pos isMark

/-- An exponent opens with its mark. -/
theorem head_exponentChars {exponent : Option Exponent}
    (wellFormed : ∀ part ∈ exponent, part.WellFormed) {c : Char}
    (head : c ∈ (exponentChars exponent).head?) : c = 'e' ∨ c = 'E' := by
  cases exponent with
  | none => cases head
  | some part =>
    cases head
    exact (wellFormed part rfl).mark

theorem scanFraction_of_wellFormed {numeral : Numeral} (wellFormed : numeral.WellFormed) :
    scanFraction (fractionChars numeral.fraction ++ exponentChars numeral.exponent) =
      (numeral.fraction, exponentChars numeral.exponent) := by
  have head := @head_exponentChars _ wellFormed.exponent
  cases fraction : numeral.fraction with
  | none =>
    cases exponent : exponentChars numeral.exponent with
    | nil => rfl
    | cons c rest =>
      have notPoint : c ≠ '.' := by
        rintro rfl
        rcases head (by rw [exponent]; rfl) with mark | mark <;> cases mark
      simp [fractionChars, scanFraction, notPoint]
  | some digits =>
    have scanned := scanDigits?_append_of_digits (wellFormed.fraction digits fraction)
      (exponentChars numeral.exponent)
      fun c first => by rcases head first with rfl | rfl <;> rfl
    simp [fractionChars, scanFraction, scanned]

/-- Behind the whole part of a number no digit follows. -/
theorem head_fractionChars {numeral : Numeral} (wellFormed : numeral.WellFormed) {c : Char}
    (head : c ∈ (fractionChars numeral.fraction ++ exponentChars numeral.exponent).head?) :
    c.isDigit = false := by
  cases fraction : numeral.fraction with
  | none =>
    rw [fraction] at head
    rcases head_exponentChars wellFormed.exponent head with rfl | rfl <;> rfl
  | some digits =>
    rw [fraction] at head
    cases head
    rfl

theorem scanMinus_of_digits {negative : Bool} {digits : List Char} (isDigits : Digits digits)
    (others : List Char) :
    scanMinus ((if negative then ['-'] else []) ++ digits ++ others) =
      (negative, digits ++ others) := by
  cases negative with
  | true => rfl
  | false =>
    obtain ⟨c, rest, rfl⟩ := List.exists_cons_of_ne_nil isDigits.1
    have notMinus : c ≠ '-' := by
      rintro rfl
      cases isDigits.2 '-' (.head _)
    simp [scanMinus, notMinus]

/-- A number is scanned from end to end. -/
theorem scan?_chars {numeral : Numeral} (wellFormed : numeral.WellFormed) :
    scan? numeral.chars = some (numeral, []) := by
  rw [chars, List.append_assoc _ (fractionChars _), scan?, scanMinus_of_digits wellFormed.whole]
  simp only [scanDigits?_append_of_digits wellFormed.whole _ fun _ => head_fractionChars wellFormed,
    scanFraction_of_wellFormed wellFormed, scanExponent_of_wellFormed wellFormed.exponent]

theorem read?_chars {numeral : Numeral} (wellFormed : numeral.WellFormed) :
    read? numeral.chars = some numeral := by
  rw [read?, scan?_chars wellFormed]

end Numeral

/-- The text of a constant of some kind. -/
inductive Literal : Kind → String → Prop where
  | integer {numeral : Numeral} (wellFormed : numeral.WellFormed)
      (whole : numeral.isReal = false) : Literal .i32 (String.ofList numeral.chars)
  | decimal {numeral : Numeral} (wellFormed : numeral.WellFormed)
      (fraction : numeral.fraction.isSome) : Literal .f32 (String.ofList numeral.chars)
  | hexadecimal {digits : List Char} (count : digits.length = 16)
      (upper : ∀ c ∈ digits, c.isDigit ∨ 'A' ≤ c ∧ c ≤ 'F') :
      Literal .f32 ("0x" ++ String.ofList digits)

theorem Literal.ne_empty {kind : Kind} {text : String} (literal : Literal kind text) :
    text ≠ "" := by
  cases literal with
  | integer wellFormed _ => simp [Numeral.chars, wellFormed.whole.1]
  | decimal wellFormed _ => simp [Numeral.chars, wellFormed.whole.1]
  | hexadecimal _ _ => simp

theorem upper_upperHexDigit {digit : Nat} (bounded : digit < 16) :
    (Text.upperHexDigit digit).isDigit ∨
      'A' ≤ Text.upperHexDigit digit ∧ Text.upperHexDigit digit ≤ 'F' := by
  revert digit
  decide

theorem upper_hexDigits {count number : Nat} {c : Char} (member : c ∈ Text.hexDigits count number) :
    c.isDigit ∨ 'A' ≤ c ∧ c ≤ 'F' := by
  induction count generalizing number with
  | zero => cases member
  | succ count inductionHypothesis =>
    rcases List.mem_append.1 member with earlier | last
    · exact inductionHypothesis earlier
    · cases List.mem_singleton.1 last
      exact upper_upperHexDigit (Nat.mod_lt _ (by decide))

theorem length_hexDigits (count number : Nat) : (Text.hexDigits count number).length = count := by
  induction count generalizing number with
  | zero => rfl
  | succ count inductionHypothesis => simp [Text.hexDigits, inductionHypothesis]

namespace Numeral

theorem WellFormed.withFraction {numeral : Numeral} (wellFormed : numeral.WellFormed) :
    numeral.withFraction.WellFormed := by
  refine ⟨wellFormed.whole, ?_, wellFormed.exponent⟩
  rintro digits ⟨⟩
  cases fraction : numeral.fraction with
  | none => exact ⟨by simp, by simp [Char.isDigit]⟩
  | some digits => exact wellFormed.fraction digits fraction

/-- A real number is spelled as a floating-point literal. -/
theorem literal_constantText {numeral : Numeral} (wellFormed : numeral.WellFormed) :
    Literal .f32 numeral.constantText := by
  unfold constantText
  split
  · exact .decimal wellFormed.withFraction rfl
  · exact .hexadecimal (length_hexDigits _ _) fun _ => upper_hexDigits

end Numeral

end Stackline.Number
