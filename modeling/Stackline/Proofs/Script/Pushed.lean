import Mathlib
import Stackline.Proofs.Script.Constant

/-!
# Pushed numbers

Every `push` of a script has one number, and what it pushes keeps the value of that number. An
integer keeps its text, of whatever size. A real number becomes the nearest single, with two
reservations: no digits of its exponent are lost that count, and it is not so near to the middle
between two singles that the double it passes through lies there.
-/

namespace Stackline.Script

open Stackline.Number
open Stackline.Number.Format

/-! ### Values of operations -/

/-- The text of an integer, and the integer that it writes. -/
inductive Writes : String → Int → Prop where
  | natural {digits : List Char} (isDigits : Digits digits) :
      Writes (String.ofList digits) (Numeral.digitsValue digits)
  | negative {digits : List Char} (isDigits : Digits digits) :
      Writes (String.ofList ('-' :: digits)) (-Numeral.digitsValue digits)

/-- An operation that pushes a number and keeps its value. -/
def Keeps (numeral : Numeral) : Operation → Prop
  | .pushInteger text => ∃ integer, Writes text integer ∧ (integer : ℚ) = numeral.value
  | .pushReal text =>
    numeral.Faithful → ¬numeral.NearTie →
      ∃ double single, Denotes text (word numeral.negative double) ∧ Narrows double single ∧
        binary32.IsNearest numeral.magnitude single
  | _ => False

theorem keeps_ofNumeral {numeral : Numeral} (wellFormed : numeral.WellFormed) :
    Keeps numeral (.ofNumeral numeral) := by
  unfold Operation.ofNumeral
  split
  · intro faithful decided
    obtain ⟨double, nearest⟩ := exists_isNearest wide64 numeral.magnitude_nonneg
    have rounds := rounds_convert nearest
    obtain ⟨single, narrows, widens⟩ := rounds.narrowed
    exact ⟨_, single, ((denotes_iff_faithful wellFormed rounds).2 faithful _).2 rfl, widens.narrows,
      Numeral.isNearest_of_not_nearTie decided nearest narrows⟩
  · rename_i integer
    obtain ⟨negative, whole, fraction, exponent⟩ := numeral
    obtain ⟨rfl, rfl⟩ : fraction = none ∧ exponent = none := by
      simpa [Numeral.isReal] using integer
    have magnitude :
        Numeral.magnitude ⟨negative, whole, none, none⟩ = Numeral.digitsValue whole := by
      simp [Numeral.magnitude, Numeral.writtenExponent, Numeral.digitsValue_nil]
    have text : Numeral.chars ⟨negative, whole, none, none⟩ =
        (if negative then ['-'] else []) ++ whole := by
      simp [Numeral.chars, Numeral.fractionChars, Numeral.exponentChars]
    rw [text]
    cases negative with
    | false => exact ⟨_, .natural wellFormed.whole, by simp [Numeral.value, magnitude]⟩
    | true => exact ⟨_, .negative wellFormed.whole, by simp [Numeral.value, magnitude]⟩

/-! ### Phrases and their statements -/

/-- A number is the argument of a number only. -/
theorem Token.argument_eq_number {token : Token} {literal : List Char}
    (stands : token.argument = .ok (.number literal)) :
    ∃ numeral, token = .number numeral ∧ literal = numeral.chars := by
  cases token with
  | word letters => cases stands
  | number numeral =>
    cases stands
    exact ⟨numeral, rfl, rfl⟩
  | quoted body =>
    rw [Token.argument_quoted] at stands
    cases unescaped : unescape body with
    | error problem => simp [unescaped, Except.map] at stands
    | ok content => simp [unescaped, Except.map] at stands

/-- The word `push` takes one number. -/
theorem Keyword.operation_push {arguments : List Argument} {operation : Operation}
    (formed : Keyword.operation .push arguments = .ok operation) :
    ∃ literal, arguments = [.number literal] ∧ Operation.pushed literal = .ok operation := by
  rcases arguments with _ | ⟨argument, _ | ⟨second, rest⟩⟩
  · cases formed
  · cases argument with
    | number literal => exact ⟨literal, rfl, formed⟩
    | word letters => cases formed
    | text content => cases formed
  · cases argument <;> cases formed

/-- A phrase with the word `push` that has a meaning has one number, and pushes it. -/
theorem Phrase.WellFormed.operation_push {phrase : Phrase} {operation : Operation}
    (wellFormed : phrase.WellFormed) (word : phrase.keyword = "push".toList)
    (meant : phrase.operation = .ok operation) :
    ∃ numeral, phrase.arguments = [.number numeral] ∧ operation = .ofNumeral numeral := by
  have named : Keyword.named? (String.ofList phrase.keyword) = some .push := by
    rw [word]
    exact Keyword.named?_name .push
  rw [Phrase.operation_eq, named] at meant
  obtain ⟨arguments, stand, formed⟩ := bind_eq_ok_iff.1 meant
  obtain ⟨literal, rfl, pushes⟩ := Keyword.operation_push formed
  have tokens := forall₂_of_mapM_eq_ok stand
  cases given : phrase.arguments with
  | nil =>
    rw [given] at tokens
    cases tokens
  | cons token rest =>
    rw [given] at tokens
    obtain ⟨stands, others⟩ := List.forall₂_cons.1 tokens
    obtain ⟨numeral, rfl, rfl⟩ := Token.argument_eq_number stands
    have isNumeral : numeral.WellFormed :=
      wellFormed.arguments (.number numeral) (given ▸ .head _)
    rw [Operation.pushed_chars isNumeral] at pushes
    cases pushes
    exact ⟨numeral, by rw [List.forall₂_nil_right_iff.1 others], rfl⟩

/-- The statement of a phrase is on its line, and keeps the value of what is pushed. -/
theorem Phrase.WellFormed.keeps {phrase : Phrase} {statement : Statement}
    (wellFormed : phrase.WellFormed) (meant : phrase.statement = .ok statement) :
    phrase.position.line = statement.line ∧
      (phrase.keyword = "push".toList → ∃ numeral, phrase.arguments = [.number numeral] ∧
        Keeps numeral statement.operation) := by
  unfold Phrase.statement at meant
  split at meant
  · rename_i operation operationMeant
    cases meant
    refine ⟨rfl, fun word => ?_⟩
    obtain ⟨numeral, one, rfl⟩ := wellFormed.operation_push word operationMeant
    refine ⟨numeral, one, keeps_ofNumeral (wellFormed.arguments (.number numeral) ?_)⟩
    rw [one]
    exact .head _
  · cases meant

/-- Every `push` of a script has one number, and what it pushes keeps the value of that. -/
theorem pushed_numbers_keep_value {source : String} {statements : List Statement}
    (parsed : parse source = .ok statements) :
    ∃ found, phrases source.toList = .ok found ∧
      List.Forall₂ (fun phrase statement => phrase.position.line = statement.line ∧
        (phrase.keyword = "push".toList → ∃ numeral, phrase.arguments = [.number numeral] ∧
          Keeps numeral statement.operation)) found statements := by
  unfold parse parseChars at parsed
  split at parsed
  · cases parsed
  · rename_i found read
    have meanings := (List.forall₂_and_left found statements).2
      ⟨wellFormed_phrases read, forall₂_of_mapM_eq_ok parsed⟩
    exact ⟨found, read, meanings.imp fun _ _ ⟨wellFormed, meant⟩ => wellFormed.keeps meant⟩

/-- A tie that is exact, and an integer below the smallest one of 32 bits. -/
theorem pushed_numbers_keep_value_boundary :
    parse "push 16777217.0\npush -2147483649" =
        .ok [⟨1, .pushReal "0x4170000000000000"⟩, ⟨2, .pushInteger "-2147483649"⟩] ∧
      (∃ double single, Denotes "0x4170000000000000" (word false double) ∧ Narrows double single ∧
        binary32.IsNearest 16777217 single) ∧
      ∃ integer, Writes "-2147483649" integer ∧ (integer : ℚ) = -2147483649 := by
  have parsed : parse "push 16777217.0\npush -2147483649" =
      .ok [⟨1, .pushReal "0x4170000000000000"⟩, ⟨2, .pushInteger "-2147483649"⟩] := by
    decide +kernel
  have read : phrases "push 16777217.0\npush -2147483649".toList =
      .ok [⟨⟨1, 1⟩, "push".toList, [.number ⟨false, "16777217".toList, some ['0'], none⟩]⟩,
        ⟨⟨2, 1⟩, "push".toList, [.number ⟨true, "2147483649".toList, none, none⟩]⟩] := by
    decide +kernel
  obtain ⟨found, foundRead, side⟩ := pushed_numbers_keep_value parsed
  cases foundRead.symm.trans read
  obtain ⟨⟨-, first⟩, others⟩ := List.forall₂_cons.1 side
  obtain ⟨⟨-, second⟩, -⟩ := List.forall₂_cons.1 others
  obtain ⟨real, ⟨⟩, keepsReal⟩ := first rfl
  obtain ⟨integer, ⟨⟩, keepsInteger⟩ := second rfl
  have magnitude : Numeral.magnitude ⟨false, "16777217".toList, some ['0'], none⟩ = 16777217 := by
    have coefficient : Numeral.coefficient ⟨false, "16777217".toList, some ['0'], none⟩ =
        167772170 := by decide +kernel
    rw [Numeral.magnitude_eq_coefficient, coefficient]
    norm_num [Numeral.writtenExponent]
  have exactly : binary64.magnitude 0x4170000010000000 = 16777217 := by
    have counted := @magnitude_count binary64 (2 ^ 52 + 2 ^ 28) 1046 (by decide) (by decide)
    have code : 2 ^ 52 + 2 ^ 28 + 1046 * binary64.binade = 0x4170000010000000 := by decide
    rw [code] at counted
    rw [counted]
    norm_num [binary64]
  have decided := Numeral.not_nearTie_of_magnitude_eq (by decide) (exactly.trans magnitude.symm)
  have magnitudeInteger : Numeral.magnitude ⟨true, "2147483649".toList, none, none⟩ =
      2147483649 := by
    have coefficient : Numeral.coefficient ⟨true, "2147483649".toList, none, none⟩ =
        2147483649 := by decide +kernel
    rw [Numeral.magnitude_eq_coefficient, coefficient]
    norm_num [Numeral.writtenExponent]
  have faithful : Numeral.Faithful ⟨false, "16777217".toList, some ['0'], none⟩ :=
    Numeral.faithful_of_readable
      ⟨⟨by simp, by simp [Char.isDigit]⟩, by simp [Digits, Char.isDigit], by simp⟩ (by decide)
  rw [Keeps, magnitude] at keepsReal
  rw [Keeps, Numeral.value, if_pos rfl, magnitudeInteger] at keepsInteger
  exact ⟨parsed, keepsReal faithful decided, keepsInteger⟩

/-- Slightly less than half way between two neighbouring singles. -/
def belowTie : Numeral :=
  ⟨false, ['1'], some "00000017881393432617187499".toList, none⟩

/-- An integer can be too large for 32 bits, and a real number can come to a single that is not
the nearest one. -/
theorem pushed_number_can_change :
    (parse "push 2147483648" = .ok [⟨1, .pushInteger "2147483648"⟩] ∧
        Writes "2147483648" 2147483648 ∧ ¬(2147483648 : Int) ≤ 2 ^ 31 - 1) ∧
      phrases "push 1.00000017881393432617187499".toList =
        .ok [⟨⟨1, 1⟩, "push".toList, [.number belowTie]⟩] ∧
      parse "push 1.00000017881393432617187499" = .ok [⟨1, .pushReal "0x3FF0000040000000"⟩] ∧
      ¬∃ double single, Denotes "0x3FF0000040000000" (word false double) ∧ Narrows double single ∧
        binary32.IsNearest belowTie.magnitude single := by
  refine ⟨⟨by decide +kernel, ?_, by decide⟩, by decide +kernel, by decide +kernel, ?_⟩
  · have digits : Digits "2147483648".toList := ⟨by simp, by simp [Char.isDigit]⟩
    have number : Numeral.digitsValue "2147483648".toList = 2147483648 := by decide +kernel
    have written := Writes.natural digits
    rwa [number] at written
  · rintro ⟨double, single, denotes, narrows, nearest⟩
    have read : Denotes ("0x" ++ String.ofList "3FF0000040000000".toList) 0x3FF0000040000000 :=
      .hexadecimal rfl (by decide +kernel)
    have bits : double = 0x3FF0000040000000 := by simpa [word] using denotes.unique read
    subst bits
    have rounded : binary64.convert binary32 0x3FF0000040000000 = 0x3F800002 := by decide +kernel
    have second : single = 0x3F800002 :=
      (narrows.unique (narrows_convert (by decide))).trans rounded
    obtain ⟨-, lower, -⟩ := isNearest_iff.1 nearest
    have passed := (lower 0x3F800001 second.symm).1
    have counted := @midpoint_count binary32 (2 ^ 23 + 1) 126 (by decide) (by decide)
    have code : 2 ^ 23 + 1 + 126 * binary32.binade = 0x3F800001 := by decide
    have coefficient : belowTie.coefficient = 100000017881393432617187499 := by decide +kernel
    have places : (belowTie.fraction.getD []).length = 26 := by decide +kernel
    have exponent : belowTie.writtenExponent = 0 := rfl
    rw [code] at counted
    rw [counted, Numeral.magnitude_eq_coefficient, coefficient, places, exponent] at passed
    norm_num [binary32] at passed

end Stackline.Script
