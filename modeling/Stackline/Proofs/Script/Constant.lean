import Mathlib
import Stackline.Proofs.Code.Definition
import Stackline.Proofs.Number.Decimal
import Stackline.Proofs.Script.Printing

/-!
# Real constants of a script

What the text of a real constant denotes, as the 64 bits of a double: sixteen hexadecimal digits
are these bits themselves, and a decimal denotes the double nearest to its exact value. A text
denotes at most one word. The text that a real number of a script is spelled as denotes the
double of that number, narrowed to a single and widened again, unless digits of its exponent are
lost that count.
-/

namespace Stackline.Script

open Stackline.Code (hexValue? hexValue?_upperHexDigit)
open Stackline.Number
open Stackline.Number.Format

/-! ### Words of 64 bits -/

/-- The bits of a double: its sign, and the code of its magnitude. -/
def word (negative : Bool) (code : Nat) : Nat :=
  (if negative then Nat.pow 2 63 else 0) + code

theorem word_lt {code : Nat} (bounded : code ≤ binary64.infinity) (negative : Bool) :
    word negative code < 16 ^ 16 := by
  have small : binary64.infinity < 2 ^ 63 := by decide
  have sign : (if negative then Nat.pow 2 63 else 0) ≤ 2 ^ 63 := by
    split <;> decide
  have room : (2 ^ 63 + 2 ^ 63 : Nat) = 16 ^ 16 := by decide
  rw [word, ← room]
  exact Nat.add_lt_add_of_le_of_lt sign (bounded.trans_lt small)

/-- The number that upper-case hexadecimal digits denote. -/
def hexNumber? (digits : List Char) : Option Nat :=
  digits.foldlM (fun number digit => (hexValue? digit).map (16 * number + ·)) 0

/-- Hexadecimal digits are read as the number they were written for, as far as they go. -/
theorem hexNumber?_hexDigits (count number : Nat) :
    hexNumber? (Text.hexDigits count number) = some (number % 16 ^ count) := by
  induction count generalizing number with
  | zero => simp [Text.hexDigits, hexNumber?, Nat.mod_one]
  | succ count inductionHypothesis =>
    have last := @hexValue?_upperHexDigit (number % 16) (Nat.mod_lt _ (by decide))
    have earlier := inductionHypothesis (number / 16)
    rw [hexNumber?] at earlier ⊢
    rw [Text.hexDigits, List.foldlM_append, earlier, pow_succ', Nat.mod_mul]
    simp [last, Nat.add_comm]

/-! ### What a constant denotes -/

/-- The text of a real constant, and the word that it denotes. -/
inductive Denotes : String → Nat → Prop where
  | hexadecimal {digits : List Char} {number : Nat} (count : digits.length = 16)
      (read : hexNumber? digits = some number) : Denotes ("0x" ++ String.ofList digits) number
  | decimal {numeral : Numeral} {code : Nat} (wellFormed : numeral.WellFormed)
      (fraction : numeral.fraction.isSome)
      (nearest : binary64.IsNearest numeral.magnitude code) :
      Denotes (String.ofList numeral.chars) (word numeral.negative code)

/-- A numeral does not go on with an `x`. -/
theorem chars_ne_hexadecimal {numeral : Numeral} (wellFormed : numeral.WellFormed)
    (digits : List Char) : numeral.chars ≠ '0' :: 'x' :: digits := by
  intro same
  have scanned := Numeral.scan?_chars wellFormed
  rw [same] at scanned
  cases scanned

/-- Two numerals of the same text are the same. -/
theorem numeral_eq_of_chars_eq {numeral other : Numeral} (wellFormed : numeral.WellFormed)
    (otherFormed : other.WellFormed) (same : numeral.chars = other.chars) : numeral = other := by
  have scanned := Numeral.scan?_chars wellFormed
  rw [same, Numeral.scan?_chars otherFormed] at scanned
  cases scanned
  rfl

/-- A text denotes at most one word. -/
theorem Denotes.unique {text : String} {number other : Nat} (first : Denotes text number)
    (second : Denotes text other) : number = other := by
  generalize equal : text = same at second
  have chars := congrArg String.toList equal
  cases first with
  | hexadecimal _ read =>
    cases second with
    | hexadecimal _ otherRead =>
      obtain rfl : _ = _ := by simpa using chars
      exact Option.some.inj (read.symm.trans otherRead)
    | decimal otherFormed _ _ =>
      exact absurd (by simpa using chars.symm) (chars_ne_hexadecimal otherFormed _)
  | decimal wellFormed _ nearest =>
    cases second with
    | hexadecimal _ _ =>
      exact absurd (by simpa using chars) (chars_ne_hexadecimal wellFormed _)
    | decimal otherFormed _ otherNearest =>
      obtain rfl := numeral_eq_of_chars_eq wellFormed otherFormed (by simpa using chars)
      rw [nearest.unique otherNearest]

/-! ### What a real number is spelled as -/

/-- The spelling of a real number denotes its double where its text stays, and its widened value
as read where not. -/
theorem denotes_constantText {numeral : Numeral} (wellFormed : numeral.WellFormed) {written : Nat}
    (nearest : binary64.IsNearest numeral.magnitude written) :
    Denotes numeral.constantText
      (word numeral.negative
        (if numeral.widened = numeral.double then written else numeral.widened)) := by
  unfold Numeral.constantText
  split
  · refine .decimal wellFormed.withFraction rfl ?_
    rwa [Numeral.magnitude_withFraction]
  · obtain ⟨-, single, -, widens⟩ := Numeral.rounds_double wellFormed
    refine .hexadecimal (length_hexDigits 16 _) ?_
    rw [hexNumber?_hexDigits, Numeral.widenedBits]
    exact congrArg some (Nat.mod_eq_of_lt (word_lt widens.bounded numeral.negative))

/-- The spelling denotes the rounded value exactly if no digits are lost that count. -/
theorem denotes_iff_faithful {numeral : Numeral} (wellFormed : numeral.WellFormed)
    {double widened : Nat} (rounds : Rounds numeral.magnitude double widened) :
    (∀ number, Denotes numeral.constantText number ↔ number = word numeral.negative widened) ↔
      numeral.Faithful := by
  have denoted := denotes_constantText wellFormed rounds.nearest
  rw [Numeral.faithful_iff wellFormed rounds]
  constructor
  · intro only
    exact Nat.add_left_cancel ((only _).1 denoted)
  · intro same number
    rw [same] at denoted
    exact ⟨fun other => other.unique denoted, fun equal => equal ▸ denoted⟩

/-- A push of a real number is read as its spelling. -/
theorem parse_push {numeral : Numeral} (real : IsReal numeral) :
    parse ("push " ++ String.ofList numeral.chars) = .ok [⟨1, .pushReal numeral.constantText⟩] := by
  have empty : Spaces [] := by simp [Spaces]
  have space : Spaces [' '] := by simp [Spaces, Lexeme.isSpace]
  have line : PrintedLine (some (.pushReal numeral.constantText)) _ :=
    .operation empty (.pushReal real) (.cons (List.cons_ne_nil _ _) space .nil) (.plain empty)
  have permitted : ∀ operation ∈ some (Operation.pushReal numeral.constantText),
      operation.Permitted := by
    rintro _ ⟨⟩
    exact ⟨numeral, real, rfl⟩
  have read := parseChars_printedLine line permitted (.inl rfl)
  rw [parse]
  simpa [Operation.keyword] using read

/-- A real number is read and spelled as a literal of its kind. The double denoted by the literal
is its own double narrowed to a single and widened again, which the same two steps leave as it
is, exactly if no digits of its exponent are lost that count. -/
theorem real_constant_denotes_single {numeral : Numeral} (real : IsReal numeral) :
    parse ("push " ++ String.ofList numeral.chars) = .ok [⟨1, .pushReal numeral.constantText⟩] ∧
      Literal .f32 numeral.constantText ∧
      (∃ double single widened, binary64.IsNearest numeral.magnitude double ∧
        Narrows double single ∧ Widens single widened ∧ Narrows widened single ∧
        ((∀ number, Denotes numeral.constantText number ↔
          number = word numeral.negative widened) ↔ numeral.Faithful)) ∧
      (numeral.Readable → numeral.Faithful) := by
  have wellFormed := real.wellFormed
  obtain ⟨double, nearest⟩ := exists_isNearest wide64 numeral.magnitude_nonneg
  have rounds := rounds_convert nearest
  obtain ⟨single, narrows, widens⟩ := rounds.narrowed
  exact ⟨parse_push real, Numeral.literal_constantText wellFormed,
    ⟨double, single, _, nearest, narrows, widens, widens.narrows,
      denotes_iff_faithful wellFormed rounds⟩, Numeral.faithful_of_readable wellFormed⟩

/-- A tie between two singles goes to the even one, and the sign is kept. -/
theorem real_constant_denotes_single_tie :
    IsReal ⟨true, "16777217".toList, none, some ⟨'e', none, ['0']⟩⟩ ∧
      parse "push -16777217e0" = .ok [⟨1, .pushReal "0xC170000000000000"⟩] ∧
      ∃ double single widened, binary64.IsNearest 16777217 double ∧ Narrows double single ∧
        Widens single widened ∧ Narrows widened single ∧
        ∀ number, Denotes "0xC170000000000000" number ↔ number = word true widened := by
  have real : IsReal ⟨true, "16777217".toList, none, some ⟨'e', none, ['0']⟩⟩ := by
    refine isReal_iff.2 ⟨⟨⟨by simp, by simp [Char.isDigit]⟩, by simp, ?_⟩, rfl⟩
    rintro _ ⟨⟩
    exact ⟨.inl rfl, by simp, by simp, by simp [Char.isDigit]⟩
  have constant : Numeral.constantText ⟨true, "16777217".toList, none, some ⟨'e', none, ['0']⟩⟩ =
      "0xC170000000000000" := by decide +kernel
  have magnitude : Numeral.magnitude ⟨true, "16777217".toList, none, some ⟨'e', none, ['0']⟩⟩ =
      16777217 := by
    have coefficient :
        Numeral.coefficient ⟨true, "16777217".toList, none, some ⟨'e', none, ['0']⟩⟩ = 16777217 := by
      decide +kernel
    rw [Numeral.magnitude_eq_coefficient, coefficient]
    simp [Numeral.writtenExponent, Numeral.digitsValue]
  obtain ⟨read, -, ⟨double, single, widened, denoted⟩, harmless⟩ :=
    real_constant_denotes_single real
  rw [constant] at read denoted
  rw [magnitude] at denoted
  obtain ⟨nearest, narrows, widens, back, only⟩ := denoted
  exact ⟨real, read, double, single, widened, nearest, narrows, widens, back,
    only.2 (harmless (by decide))⟩

/-! ### Exponents beyond reach -/

/-- A one behind the point and `zeros` zeros, with an exponent. -/
def padded (zeros : Nat) (exponent : List Char) : Numeral :=
  ⟨false, ['0'], some (List.replicate zeros '0' ++ ['1']), some ⟨'e', none, exponent⟩⟩

theorem isReal_padded (zeros : Nat) {exponent : List Char} (digits : Digits exponent) :
    IsReal (padded zeros exponent) := by
  refine isReal_iff.2 ⟨⟨⟨by simp [padded], by simp [padded, Char.isDigit]⟩, ?_, ?_⟩, rfl⟩
  · rintro _ ⟨⟩
    refine ⟨by simp, fun c member => ?_⟩
    rcases List.mem_append.1 member with zero | one
    · rw [List.eq_of_mem_replicate zero]
      rfl
    · rw [List.mem_singleton.1 one]
      rfl
  · rintro _ ⟨⟩
    exact ⟨.inl rfl, by simp, digits⟩

/-- Only the one counts. -/
theorem significant_padded (zeros : Nat) (exponent : List Char) :
    (padded zeros exponent).significant.dropWhile (· = '0') = ['1'] := by
  have zero : ∀ c ∈ '0' :: List.replicate zeros '0', decide (c = '0') := by
    simp +contextual
  have split : (padded zeros exponent).significant =
      ('0' :: List.replicate zeros '0') ++ ['1'] := rfl
  rw [split, List.dropWhile_append_of_pos zero]
  rfl

theorem coefficient_padded (zeros : Nat) (exponent : List Char) :
    (padded zeros exponent).coefficient = 1 := by
  rw [Numeral.coefficient, ← Numeral.digitsValue_dropWhile, significant_padded]
  rfl

theorem magnitude_padded (zeros : Nat) (exponent : List Char) :
    (padded zeros exponent).magnitude =
      10 ^ ((Numeral.digitsValue exponent : Int) - (zeros + 1 : Nat)) := by
  rw [Numeral.magnitude_eq_coefficient, coefficient_padded, Nat.cast_one, one_mul]
  simp [padded, Numeral.writtenExponent]

theorem double_padded (zeros : Nat) (exponent : List Char) :
    (padded zeros exponent).double =
      doubleOfDecimal 1 ((Numeral.exponentValue exponent : Int) - (zeros + 1 : Nat)) 1 := by
  rw [Numeral.double, coefficient_padded, significant_padded]
  simp [padded, Numeral.power, Numeral.signedExponent]

/-- Zeros behind the point make up for the digits of the exponent that are read, and the value
comes out as one tenth instead of infinity. -/
theorem lost_exponent_changes_single :
    ∃ numeral, IsReal numeral ∧ numeral.constantText = "0x3FB99999A0000000" ∧
      ¬∃ double single widened, binary64.IsNearest numeral.magnitude double ∧
        Narrows double single ∧ Widens single widened ∧
        Denotes numeral.constantText (word numeral.negative widened) := by
  have exponentRead : Numeral.exponentValue "655360".toList = 65536 := by decide +kernel
  have exponentWritten : Numeral.digitsValue "655360".toList = 655360 := by decide +kernel
  have tenth : (padded 65536 "655360".toList).double = 0x3FB999999999999A := by
    rw [double_padded, exponentRead]
    decide +kernel
  have spelled : (padded 65536 "655360".toList).constantText = "0x3FB99999A0000000" := by
    rw [Numeral.constantText, Numeral.widenedBits, Numeral.widened, tenth,
      if_neg (by decide +kernel)]
    decide +kernel
  have infinite :
      binary64.IsNearest (padded 65536 "655360".toList).magnitude binary64.infinity := by
    apply isNearest_infinity
    rw [magnitude_padded, exponentWritten]
    exact infinity_le_ten_zpow (by decide)
  refine ⟨padded 65536 "655360".toList, isReal_padded _ ⟨by simp, by simp [Char.isDigit]⟩,
    spelled, ?_⟩
  rintro ⟨double, single, widened, nearest, narrows, widens, denotes⟩
  obtain rfl := nearest.unique infinite
  obtain rfl := narrows.unique (.infinite rfl)
  obtain rfl := widens.unique (.infinite rfl)
  rw [spelled] at denotes
  have read : Denotes ("0x" ++ String.ofList "3FB99999A0000000".toList) 0x3FB99999A0000000 :=
    .hexadecimal rfl (by decide +kernel)
  exact absurd (denotes.unique read) (by decide +kernel)

end Stackline.Script
