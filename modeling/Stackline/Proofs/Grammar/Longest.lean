import Stackline.Proofs.Grammar.Shape

/-!
# Longest matches

Layout, line endings and tokens are taken as far as they go: what takes a whole text
takes at least that text where more follows it. For numbers this rests on the order in
which their parts are given back, so it is shown part by part; the other pieces are runs
of a class of characters, or end with a mark of their own.
-/

namespace Stackline.Grammar

open Stackline.Script
open Stackline.Script.Lexeme (isSpace isEnding isWordStart isWordPart scanQuoted? scanNewline?
  scanToken?)
open Stackline.Number

/-- A run that takes a whole text goes on in what follows. -/
theorem dropWhile_append_suffix {accepts : Char → Bool} {text : List Char}
    (whole : text.dropWhile accepts = []) (others : List Char) :
    (text ++ others).dropWhile accepts <:+ others := by
  rw [List.dropWhile_append, whole]
  exact List.dropWhile_suffix accepts

/-! ### Numbers -/

/-- Digits go on in what follows, unless they were ended before. -/
theorem scanDigits?_append {text digits rest : List Char}
    (scanned : Numeral.scanDigits? text = some (digits, rest)) (others : List Char) :
    ∃ more left, Numeral.scanDigits? (text ++ others) = some (more, left) ∧
      (left = rest ++ others ∨ rest = [] ∧ left <:+ others) := by
  cases text with
  | nil => cases scanned
  | cons c tail =>
    by_cases digit : c.isDigit
    · simp only [Numeral.scanDigits?, List.takeWhile_cons_of_pos digit,
        List.dropWhile_cons_of_pos digit, Option.some.injEq, Prod.mk.injEq] at scanned
      obtain ⟨-, rfl⟩ := scanned
      simp only [Numeral.scanDigits?, List.cons_append, List.takeWhile_cons_of_pos digit,
        List.dropWhile_cons_of_pos digit]
      refine ⟨_, _, rfl, ?_⟩
      by_cases ended : tail.dropWhile Char.isDigit = []
      · exact .inr ⟨ended, dropWhile_append_suffix ended others⟩
      · refine .inl ?_
        rw [List.dropWhile_append, if_neg (by simpa using ended)]
    · simp [Numeral.scanDigits?, digit] at scanned

theorem scanExponent_suffix (input : List Char) : (Numeral.scanExponent input).2 <:+ input :=
  ⟨_, (Numeral.chars_scanExponent input).symm⟩

theorem scanFraction_suffix (input : List Char) : (Numeral.scanFraction input).2 <:+ input :=
  ⟨_, (Numeral.chars_scanFraction input).symm⟩

/-- What follows a text does not change the sign it opens with. -/
theorem scanSign_append {text : List Char} (nonempty : text ≠ []) (others : List Char) :
    Numeral.scanSign (text ++ others) =
      ((Numeral.scanSign text).1, (Numeral.scanSign text).2 ++ others) := by
  obtain ⟨c, tail, rfl⟩ := List.exists_cons_of_ne_nil nonempty
  by_cases minus : c = '-'
  · subst minus
    rfl
  by_cases plus : c = '+'
  · subst plus
    rfl
  simp [Numeral.scanSign, minus, plus]

theorem scanExponent_append {text : List Char} (whole : (Numeral.scanExponent text).2 = [])
    (others : List Char) : (Numeral.scanExponent (text ++ others)).2 <:+ others := by
  cases text with
  | nil => exact scanExponent_suffix others
  | cons mark tail =>
    by_cases isMark : mark = 'e' ∨ mark = 'E'
    · simp only [Numeral.scanExponent, isMark, if_true] at whole
      cases scanned : Numeral.scanDigits? (Numeral.scanSign tail).2 with
      | none => simp [scanned] at whole
      | some found =>
        obtain ⟨digits, rest⟩ := found
        have ended : rest = [] := by simpa [scanned] using whole
        have nonempty : tail ≠ [] := by
          rintro rfl
          cases scanned
        obtain ⟨more, left, again, place⟩ := scanDigits?_append scanned others
        simp only [Numeral.scanExponent, List.cons_append, isMark, if_true,
          scanSign_append nonempty, again]
        rcases place with equal | ⟨-, suffix⟩
        · simp [equal, ended]
        · exact suffix
    · simp [Numeral.scanExponent, isMark] at whole

/-- A fraction and an exponent that take a whole text. -/
theorem scanFraction_append {text : List Char}
    (whole : (Numeral.scanExponent (Numeral.scanFraction text).2).2 = []) (others : List Char) :
    (Numeral.scanExponent (Numeral.scanFraction (text ++ others)).2).2 <:+ others := by
  cases text with
  | nil => exact (scanExponent_suffix _).trans (scanFraction_suffix others)
  | cons c tail =>
    by_cases point : c = '.'
    · subst point
      cases scanned : Numeral.scanDigits? tail with
      | none => simp [Numeral.scanFraction, Numeral.scanExponent, scanned] at whole
      | some found =>
        obtain ⟨digits, rest⟩ := found
        simp only [Numeral.scanFraction, scanned] at whole
        obtain ⟨more, left, again, place⟩ := scanDigits?_append scanned others
        simp only [Numeral.scanFraction, List.cons_append, again]
        rcases place with rfl | ⟨-, suffix⟩
        · exact scanExponent_append whole others
        · exact (scanExponent_suffix left).trans suffix
    · have same : ∀ input, (Numeral.scanFraction (c :: input)).2 = c :: input := by
        simp [Numeral.scanFraction, point]
      rw [same] at whole
      rw [List.cons_append, same]
      exact scanExponent_append whole others

/-- A number that is a whole text goes on in what follows, and stays one. -/
theorem scan?_append {text : List Char} {numeral : Numeral}
    (whole : Numeral.scan? text = some (numeral, [])) (others : List Char) :
    ∃ longer rest, Numeral.scan? (text ++ others) = some (longer, rest) ∧ rest <:+ others := by
  have minus : Numeral.scanMinus (text ++ others) =
      ((Numeral.scanMinus text).1, (Numeral.scanMinus text).2 ++ others) := by
    cases text with
    | nil => cases whole
    | cons c tail =>
      by_cases negative : c = '-'
      · subst negative
        rfl
      · simp [Numeral.scanMinus, negative]
  cases scanned : Numeral.scanDigits? (Numeral.scanMinus text).2 with
  | none => simp [Numeral.scan?, scanned] at whole
  | some found =>
    obtain ⟨digits, rest⟩ := found
    simp only [Numeral.scan?, scanned, Option.some.injEq, Prod.mk.injEq] at whole
    obtain ⟨more, left, again, place⟩ := scanDigits?_append scanned others
    simp only [Numeral.scan?, minus, again]
    refine ⟨_, _, rfl, ?_⟩
    rcases place with rfl | ⟨-, suffix⟩
    · exact scanFraction_append whole.2 others
    · exact ((scanExponent_suffix _).trans (scanFraction_suffix left)).trans suffix

/-! ### Quoted texts, tokens and layout -/

/-- What follows a closing quote is left. -/
theorem scanQuoted?_append {text body rest : List Char}
    (scanned : scanQuoted? text = some (body, rest)) (others : List Char) :
    scanQuoted? (text ++ others) = some (body, rest ++ others) := by
  fun_induction scanQuoted? text generalizing body rest with
  | case1 => cases scanned
  | case2 tail =>
    cases scanned
    rfl
  | case3 => cases scanned
  | case4 escaped tail notEnding inductionHypothesis =>
    obtain ⟨⟨found, after⟩, foundScan, equal⟩ := Option.map_eq_some_iff.1 scanned
    cases equal
    simp [scanQuoted?, notEnding, inductionHypothesis foundScan]
  | case5 => cases scanned
  | case6 c tail notQuote notEscape allowed inductionHypothesis =>
    obtain ⟨⟨found, after⟩, foundScan, equal⟩ := Option.map_eq_some_iff.1 scanned
    cases equal
    simp only [Bool.or_eq_true, decide_eq_true_eq, not_or] at allowed
    simp [scanQuoted?, allowed, inductionHypothesis foundScan]

theorem scanToken?_append {text : List Char} {token : Token}
    (whole : scanToken? text = some (token, [])) (others : List Char) :
    ∃ longer rest, scanToken? (text ++ others) = some (longer, rest) ∧ rest <:+ others := by
  cases text with
  | nil => cases whole
  | cons c tail =>
    rw [scanToken?] at whole
    rw [List.cons_append, scanToken?]
    split at whole
    · rename_i start
      rw [if_pos start]
      simp only [Option.some.injEq, Prod.mk.injEq] at whole
      exact ⟨_, _, rfl, dropWhile_append_suffix whole.2 others⟩
    · rename_i notStart
      rw [if_neg notStart]
      split at whole
      · rename_i quote
        obtain ⟨⟨body, rest⟩, scanned, equal⟩ := Option.map_eq_some_iff.1 whole
        cases equal
        rw [if_pos quote, scanQuoted?_append scanned]
        exact ⟨_, _, rfl, List.suffix_rfl⟩
      · rename_i unquoted
        obtain ⟨⟨numeral, rest⟩, scanned, equal⟩ := Option.map_eq_some_iff.1 whole
        cases equal
        obtain ⟨longer, rest, again, suffix⟩ := scan?_append scanned others
        rw [if_neg unquoted, ← List.cons_append, again]
        exact ⟨_, _, rfl, suffix⟩

/-- The pair of a carriage return and a line feed is one line ending. -/
theorem scanNewline?_append {text ending : List Char}
    (whole : scanNewline? text = some (ending, [])) (others : List Char) :
    ∃ longer rest, scanNewline? (text ++ others) = some (longer, rest) ∧ rest <:+ others := by
  unfold scanNewline? at whole
  split at whole
  · cases whole
    exact ⟨_, _, rfl, List.suffix_rfl⟩
  · cases whole
    cases others with
    | nil => exact ⟨_, _, rfl, List.suffix_rfl⟩
    | cons c tail =>
      by_cases feed : c = '\n'
      · subst feed
        exact ⟨_, _, rfl, List.suffix_cons _ _⟩
      · have alone : scanNewline? ('\r' :: c :: tail) = some (['\r'], c :: tail) := by
          simp [scanNewline?, feed]
        exact ⟨_, _, alone, List.suffix_rfl⟩
  · cases whole
    exact ⟨_, _, rfl, List.suffix_rfl⟩
  · cases whole

theorem skipLayout_append {text : List Char} (whole : skipLayout text = [])
    (others : List Char) : skipLayout (text ++ others) <:+ others := by
  unfold skipLayout at whole
  split at whole
  · rename_i tail marked
    have commented : (text ++ others).dropWhile isSpace = '#' :: (tail ++ others) := by
      rw [List.dropWhile_append, marked]
      rfl
    rw [skipLayout, commented]
    exact dropWhile_append_suffix whole others
  · have blank : (text ++ others).dropWhile isSpace = others.dropWhile isSpace := by
      rw [List.dropWhile_append, whole]
      rfl
    rw [skipLayout, blank]
    exact skipLayout_suffix others

end Stackline.Grammar
