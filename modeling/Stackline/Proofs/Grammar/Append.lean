import Stackline.Proofs.Grammar.Longest

/-!
# More text behind a text

What is read of a text stays so when a text follows that goes on none of its tokens: the
scanners find the same tokens, and a text that is refused is refused at the same place
(`shape_append`). Only what stands open at the end of the text is read again with what
follows: layout, which may go on, and a carriage return, which may be half of a line
ending.
-/

namespace Stackline.Grammar

open Stackline.Script
open Stackline.Script.Lexeme (isSpace isEnding isWordStart isWordPart scanQuoted? scanNewline?
  scanToken? chars_scanQuoted? chars_scanNewline? chars_scanToken?)
open Stackline.Number

/-- The characters that can go on a token. A quote opens one. -/
def continuesToken (c : Char) : Bool :=
  isWordPart c || c = '.' || c = '-' || c = '+' || c = '"'

/-- A text that goes on no complete token before it. -/
def Stops (others : List Char) : Prop :=
  ∀ c ∈ others.head?, continuesToken c = false

/-- A text that goes on no token before it, not even a quoted text that is still open: this
is not closed in it, as a line ends first or there is no quote. -/
structure Breaks (others : List Char) : Prop where
  stops : Stops others
  unquoted : (∃ c ∈ others.head?, isEnding c) ∨ '"' ∉ others

/-- A line ending goes on no token. -/
theorem breaks_ending {c : Char} (ending : isEnding c) (rest : List Char) : Breaks (c :: rest) := by
  refine ⟨?_, .inl ⟨c, rfl, ending⟩⟩
  rintro _ ⟨⟩
  simp only [isEnding, Bool.or_eq_true, decide_eq_true_eq] at ending
  rcases ending with rfl | rfl <;> decide

section Scanning

variable {others : List Char}

theorem takeWhile_append_of_stop {accepts : Char → Bool}
    (stop : ∀ c ∈ others.head?, accepts c = false) (text : List Char) :
    (text ++ others).takeWhile accepts = text.takeWhile accepts := by
  induction text with
  | nil => cases others <;> simp_all
  | cons c rest inductionHypothesis =>
    simp only [List.cons_append, List.takeWhile_cons, inductionHypothesis]

theorem dropWhile_append_of_stop {accepts : Char → Bool}
    (stop : ∀ c ∈ others.head?, accepts c = false) (text : List Char) :
    (text ++ others).dropWhile accepts = text.dropWhile accepts ++ others := by
  induction text with
  | nil => cases others <;> simp_all
  | cons c rest inductionHypothesis =>
    simp only [List.cons_append, List.dropWhile_cons, inductionHypothesis]
    split <;> rfl

theorem Stops.wordPart (stops : Stops others) : ∀ c ∈ others.head?, isWordPart c = false := by
  intro c head
  have closed := stops c head
  grind [continuesToken]

theorem Stops.digit (stops : Stops others) : ∀ c ∈ others.head?, c.isDigit = false := by
  intro c head
  have closed := stops.wordPart c head
  grind [isWordPart, Char.isAlphanum]

theorem Stops.head_ne (stops : Stops others) (mark : Char) (continues : continuesToken mark) :
    others.head? ≠ some mark := by
  intro head
  have closed := stops mark head
  simp [continues] at closed

theorem scanDigits?_append_of_stops (stops : Stops others) (text : List Char) :
    Numeral.scanDigits? (text ++ others) =
      (Numeral.scanDigits? text).map (Prod.map id (· ++ others)) := by
  rw [Numeral.scanDigits?, Numeral.scanDigits?, takeWhile_append_of_stop stops.digit,
    dropWhile_append_of_stop stops.digit]
  split <;> rfl

theorem scanMinus_append_of_stops (stops : Stops others) (text : List Char) :
    Numeral.scanMinus (text ++ others) = Prod.map id (· ++ others) (Numeral.scanMinus text) := by
  cases text with
  | nil =>
    have other := stops.head_ne '-' (by decide)
    cases others <;> simp_all [Numeral.scanMinus]
  | cons c rest =>
    by_cases minus : c = '-'
    · subst minus
      rfl
    · simp [Numeral.scanMinus, minus]

theorem scanSign_append_of_stops (stops : Stops others) (text : List Char) :
    Numeral.scanSign (text ++ others) = Prod.map id (· ++ others) (Numeral.scanSign text) := by
  cases text with
  | nil =>
    have notMinus := stops.head_ne '-' (by decide)
    have notPlus := stops.head_ne '+' (by decide)
    cases others <;> simp_all [Numeral.scanSign]
  | cons c rest => exact scanSign_append (List.cons_ne_nil c rest) others

theorem scanFraction_append_of_stops (stops : Stops others) (text : List Char) :
    Numeral.scanFraction (text ++ others) =
      Prod.map id (· ++ others) (Numeral.scanFraction text) := by
  cases text with
  | nil =>
    have other := stops.head_ne '.' (by decide)
    cases others <;> simp_all [Numeral.scanFraction]
  | cons c rest =>
    by_cases point : c = '.'
    · subst point
      simp only [List.cons_append, Numeral.scanFraction, scanDigits?_append_of_stops stops]
      cases Numeral.scanDigits? rest <;> rfl
    · simp [Numeral.scanFraction, point]

theorem scanExponent_append_of_stops (stops : Stops others) (text : List Char) :
    Numeral.scanExponent (text ++ others) =
      Prod.map id (· ++ others) (Numeral.scanExponent text) := by
  cases text with
  | nil =>
    have notLower := stops.head_ne 'e' (by decide)
    have notUpper := stops.head_ne 'E' (by decide)
    cases others <;> simp_all [Numeral.scanExponent]
  | cons mark rest =>
    by_cases isMark : mark = 'e' ∨ mark = 'E'
    · simp only [List.cons_append, Numeral.scanExponent, isMark, if_true,
        scanSign_append_of_stops stops, Prod.map_fst, Prod.map_snd, id_eq,
        scanDigits?_append_of_stops stops]
      cases Numeral.scanDigits? (Numeral.scanSign rest).2 <;> rfl
    · simp [Numeral.scanExponent, isMark]

theorem scan?_append_of_stops (stops : Stops others) (text : List Char) :
    Numeral.scan? (text ++ others) = (Numeral.scan? text).map (Prod.map id (· ++ others)) := by
  simp only [Numeral.scan?, scanMinus_append_of_stops stops, Prod.map_fst, Prod.map_snd, id_eq,
    scanDigits?_append_of_stops stops]
  cases Numeral.scanDigits? (Numeral.scanMinus text).2 with
  | none => rfl
  | some found =>
    simp [scanFraction_append_of_stops stops, scanExponent_append_of_stops stops]

/-- A quoted text that is not closed is not closed by what follows. -/
theorem scanQuoted?_append_of_breaks (breaks : Breaks others) (text : List Char) :
    scanQuoted? (text ++ others) = (scanQuoted? text).map (Prod.map id (· ++ others)) := by
  -- Where a line ends or no quote follows, nothing is found behind a backslash either.
  have unclosed : scanQuoted? others = none ∧ scanQuoted? ('\\' :: others) = none := by
    rcases breaks.unquoted with ⟨c, head, ending⟩ | noQuote
    · obtain ⟨rest, rfl⟩ := List.head?_eq_some_iff.1 head
      have unquoted : c ≠ '"' := by grind [isEnding]
      have unescaped : c ≠ '\\' := by grind [isEnding]
      constructor
      · simp [scanQuoted?, unescaped, ending]
      · simp [scanQuoted?, ending]
    · have none_of_not_mem {input : List Char} (absent : '"' ∉ input) :
          scanQuoted? input = none := by
        rw [Option.eq_none_iff_forall_ne_some]
        rintro ⟨body, rest⟩ scanned
        exact absent (chars_scanQuoted? scanned ▸ by simp)
      exact ⟨none_of_not_mem noQuote, none_of_not_mem (by simpa using noQuote)⟩
  cases scanned : scanQuoted? text with
  | some found =>
    exact scanQuoted?_append scanned others
  | none =>
    fun_induction scanQuoted? text with
    | case1 => exact unclosed.1
    | case2 => cases scanned
    | case3 escaped rest ending => simp [scanQuoted?, ending]
    | case4 escaped rest notEnding inductionHypothesis =>
      have later := inductionHypothesis (Option.map_eq_none_iff.1 scanned)
      simp [scanQuoted?, notEnding, later]
    | case5 c rest notQuote notEscape barred =>
      simp only [Bool.or_eq_true, decide_eq_true_eq] at barred
      rcases barred with rfl | ending
      · cases rest with
        | nil => exact unclosed.2
        | cons escaped rest => exact absurd rfl (notEscape escaped rest rfl)
      · have unescaped : c ≠ '\\' := by grind [isEnding]
        simp [scanQuoted?, unescaped, ending]
    | case6 c rest notQuote notEscape allowed inductionHypothesis =>
      have later := inductionHypothesis (Option.map_eq_none_iff.1 scanned)
      simp only [Bool.or_eq_true, decide_eq_true_eq, not_or] at allowed
      simp [scanQuoted?, allowed, later]

/-- What goes on no token begins none. -/
theorem Stops.scanToken?_eq_none (stops : Stops others) : scanToken? others = none := by
  cases others with
  | nil => rfl
  | cons c rest =>
    have closed := stops c rfl
    have notStart : isWordStart c = false := by
      grind [continuesToken, isWordPart, isWordStart, Char.isAlphanum]
    have notQuote : c ≠ '"' := by grind [continuesToken]
    have notMinus : c ≠ '-' := by grind [continuesToken]
    simp [scanToken?, notStart, notQuote, scan?_eq_none notMinus (stops.digit c rfl)]

theorem scanToken?_append_of_breaks (breaks : Breaks others) (text : List Char) :
    scanToken? (text ++ others) = (scanToken? text).map (Prod.map id (· ++ others)) := by
  cases text with
  | nil => exact breaks.stops.scanToken?_eq_none
  | cons c rest =>
    rw [List.cons_append, scanToken?, scanToken?]
    split
    · rw [takeWhile_append_of_stop breaks.stops.wordPart,
        dropWhile_append_of_stop breaks.stops.wordPart]
      rfl
    · split
      · rw [scanQuoted?_append_of_breaks breaks]
        cases scanQuoted? rest <;> rfl
      · rw [← List.cons_append, scan?_append_of_stops breaks.stops]
        cases Numeral.scan? (c :: rest) <;> rfl

/-- A token is the same whatever follows that does not go on it. -/
theorem scanToken?_append_of_stops (stops : Stops others) {text rest : List Char} {token : Token}
    (scanned : scanToken? text = some (token, rest)) :
    scanToken? (text ++ others) = some (token, rest ++ others) := by
  cases text with
  | nil => cases scanned
  | cons c tail =>
    rw [scanToken?] at scanned
    rw [List.cons_append, scanToken?]
    split at scanned
    · rename_i start
      cases scanned
      rw [if_pos start, takeWhile_append_of_stop stops.wordPart,
        dropWhile_append_of_stop stops.wordPart]
    · rename_i notStart
      rw [if_neg notStart]
      split at scanned
      · rename_i quote
        obtain ⟨⟨body, after⟩, bodyScan, equal⟩ := Option.map_eq_some_iff.1 scanned
        cases equal
        rw [if_pos quote, scanQuoted?_append bodyScan]
        rfl
      · rename_i unquoted
        obtain ⟨⟨numeral, after⟩, numeralScan, equal⟩ := Option.map_eq_some_iff.1 scanned
        cases equal
        rw [if_neg unquoted, ← List.cons_append, scan?_append_of_stops stops, numeralScan]
        rfl

/-- Layout that ends within a text ends there whatever follows. -/
theorem skipLayout_append_of_rest {text : List Char} (more : skipLayout text ≠ [])
    (others : List Char) : skipLayout (text ++ others) = skipLayout text ++ others := by
  unfold skipLayout at more ⊢
  split at more
  · rename_i rest marked
    have commented : (text ++ others).dropWhile isSpace = '#' :: (rest ++ others) := by
      rw [List.dropWhile_append, marked]
      rfl
    simp only [commented]
    rw [List.dropWhile_append, if_neg (by simpa using more)]
  · rename_i unmarked
    have spaced : (text ++ others).dropWhile isSpace = text.dropWhile isSpace ++ others := by
      rw [List.dropWhile_append, if_neg (by simpa using more)]
    obtain ⟨c, rest, bare⟩ := List.exists_cons_of_ne_nil more
    have notMark : c ≠ '#' := by
      rintro rfl
      exact unmarked rest bare
    simp [spaced, bare, notMark]

/-- Layout that takes a whole text ends where the line ends. -/
theorem skipLayout_append_ending {text : List Char} (whole : skipLayout text = []) {c : Char}
    (ending : isEnding c) (rest : List Char) : skipLayout (text ++ c :: rest) = c :: rest := by
  have notSpace : isSpace c = false := by grind [isSpace, isEnding]
  have notMark : c ≠ '#' := by grind [isEnding]
  have spaced : (text ++ c :: rest).dropWhile isSpace = text.dropWhile isSpace ++ c :: rest :=
    dropWhile_append_of_stop (by simpa using notSpace) text
  unfold skipLayout at whole ⊢
  split at whole
  · rename_i remark marked
    simp only [spaced, marked, List.cons_append]
    rw [dropWhile_append_of_stop (by simpa using ending), whole, List.nil_append]
  · simp [spaced, whole, notMark]

/-- A line ending is the same whatever follows, but for a carriage return at the end. -/
theorem scanNewline?_append_of_ne {text : List Char} (nonempty : text ≠ [])
    (notReturn : text ≠ ['\r']) (others : List Char) :
    scanNewline? (text ++ others) = (scanNewline? text).map (Prod.map id (· ++ others)) := by
  obtain ⟨c, rest, rfl⟩ := List.exists_cons_of_ne_nil nonempty
  by_cases feed : c = '\n'
  · subst feed
    rfl
  by_cases return_ : c = '\r'
  · subst return_
    obtain ⟨d, rest, rfl⟩ := List.exists_cons_of_ne_nil (l := rest) (by simpa using notReturn)
    by_cases pair : d = '\n'
    · subst pair
      rfl
    · simp [scanNewline?, pair]
  · simp [scanNewline?, feed, return_]

end Scanning

/-- A text is refused at a character that belongs to no token, layout or line ending. -/
theorem shape_foreign {c : Char} (foreign : continuesToken c = false)
    (bare : opensLayout c = false) (unending : isEnding c = false) (position : Position)
    (current : Option Phrase) (rest : List Char) :
    shape position current (c :: rest) = .error (.of position current) := by
  have stops : Stops (c :: rest) := by
    rintro _ ⟨⟩
    exact foreign
  have noLayout : skipLayout (c :: rest) = c :: rest := by
    refine skipLayout_eq_self ?_
    rintro _ ⟨⟩
    exact bare
  have noNewline : scanNewline? (c :: rest) = none := by
    simp only [isEnding, Bool.or_eq_false_iff, decide_eq_false_iff_not] at unending
    simp [scanNewline?, unending]
  exact shape_unreadable (by simp) noLayout noNewline stops.scanToken?_eq_none position current

/-! ### What stands open at the end of a text -/

/-- The end of a text that is read together with what follows: layout, or a carriage
return. -/
def Open (last : List Char) : Prop :=
  skipLayout last = [] ∨ last = ['\r']

/-- What stands open at the end of a text is read as nothing more than that. -/
theorem Open.shape_eq {last : List Char} (open_ : Open last) (position : Position)
    (current : Option Phrase) : shape position current last = .ok current.toList := by
  rcases open_ with layout | rfl
  · obtain ⟨skipped, -, skips⟩ := shape_skip last
    rw [skips, layout, shape_nil]
  · rw [shape_newline rfl, shape_nil]
    simp [Except.map]

/-- How a text is read with more behind it, by what is read of the text alone. A text that
is refused stays refused. Otherwise some phrases are complete, and the rest is read from
what stands open on. -/
def ReadsOn (others : List Char) (position : Position) (current : Option Phrase)
    (text : List Char) : Except Refusal (List Phrase) → Prop
  | .error refusal => shape position current (text ++ others) = .error refusal
  | .ok found => ∃ earlier behind next last, found = earlier ++ next.toList ∧ Open last ∧
      behind.advance last = position.advance text ∧
      shape position current (text ++ others) =
        (shape behind next (last ++ others)).map (earlier ++ ·)

theorem readsOn_open {text : List Char} (open_ : Open text) (others : List Char)
    (position : Position) (current : Option Phrase) :
    ReadsOn others position current text (shape position current text) := by
  rw [open_.shape_eq]
  refine ⟨[], position, current, text, rfl, open_, rfl, ?_⟩
  cases shape position current (text ++ others) <;> rfl

/-- A piece at the head of a text that is read the same whatever follows. -/
theorem ReadsOn.step {others text passed rest : List Char} {position : Position}
    {current next : Option Phrase} {earlier : List Phrase} (split : text = passed ++ rest)
    (alone : shape position current text =
      (shape (position.advance passed) next rest).map (earlier ++ ·))
    (together : shape position current (text ++ others) =
      (shape (position.advance passed) next (rest ++ others)).map (earlier ++ ·))
    (later : ReadsOn others (position.advance passed) next rest
      (shape (position.advance passed) next rest)) :
    ReadsOn others position current text (shape position current text) := by
  rw [alone]
  cases result : shape (position.advance passed) next rest with
  | error refusal =>
    rw [result] at later
    simp only [ReadsOn] at later
    simp only [Except.map, ReadsOn, together, later]
  | ok found =>
    rw [result] at later
    obtain ⟨more, behind, last, tail, rfl, open_, place, equal⟩ := later
    refine ⟨earlier ++ more, behind, last, tail, by simp, open_, ?_, ?_⟩
    · rw [place, split, Position.advance_append]
    · rw [together, equal]
      cases shape behind last (tail ++ others) <;> simp [Except.map]

/-- A piece that completes no phrase. -/
theorem ReadsOn.pass {others text passed rest : List Char} {position : Position}
    {current next : Option Phrase} (split : text = passed ++ rest)
    (alone : shape position current text = shape (position.advance passed) next rest)
    (together : shape position current (text ++ others) =
      shape (position.advance passed) next (rest ++ others))
    (later : ReadsOn others (position.advance passed) next rest
      (shape (position.advance passed) next rest)) :
    ReadsOn others position current text (shape position current text) := by
  have same (result : Except Refusal (List Phrase)) : result = result.map ([] ++ ·) := by
    cases result <;> rfl
  exact .step split (alone.trans (same _)) (together.trans (same _)) later

/-- A text with more behind it that goes on none of its tokens. -/
theorem shape_append {others : List Char} (breaks : Breaks others) (position : Position)
    (current : Option Phrase) (text : List Char) :
    ReadsOn others position current text (shape position current text) := by
  induction size : text.length using Nat.strongRecOn generalizing position current text with
  | ind size inductionHypothesis =>
    subst size
    by_cases layout : skipLayout text = []
    · exact readsOn_open (.inl layout) others position current
    by_cases bare : skipLayout text = text
    · by_cases return_ : text = ['\r']
      · exact readsOn_open (.inr return_) others position current
      have nonempty : text ≠ [] := bare ▸ layout
      have newline := scanNewline?_append_of_ne nonempty return_ others
      have token := scanToken?_append_of_breaks breaks text
      have bareToo : skipLayout (text ++ others) = text ++ others := by
        rw [skipLayout_append_of_rest layout, bare]
      cases ended : scanNewline? text with
      | some found =>
        obtain ⟨ending, rest⟩ := found
        rw [ended] at newline
        obtain ⟨split, taken⟩ := chars_scanNewline? ended
        refine .step split (shape_newline ended _ _) (shape_newline newline _ _)
          (inductionHypothesis _ ?_ _ _ rest rfl)
        have positive := List.length_pos_iff.2 taken
        rw [split, List.length_append]
        omega
      | none =>
        rw [ended] at newline
        cases scanned : scanToken? text with
        | none =>
          rw [scanned] at token
          rw [shape_unreadable nonempty bare ended scanned]
          exact shape_unreadable (by simp [nonempty]) bareToo newline token _ _
        | some found =>
          obtain ⟨content, rest⟩ := found
          rw [scanned] at token
          obtain ⟨split, taken⟩ := chars_scanToken? scanned
          have shorter : rest.length < text.length := by
            have positive := List.length_pos_iff.2 taken
            rw [split, List.length_append]
            omega
          cases current with
          | some phrase =>
            exact .pass split (shape_argument scanned _ _) (shape_argument token _ _)
              (inductionHypothesis _ shorter _ _ rest rfl)
          | none =>
            by_cases isWord : ∃ letters, content = .word letters
            · obtain ⟨letters, rfl⟩ := isWord
              exact .pass split (shape_keyword scanned _) (shape_keyword token _)
                (inductionHypothesis _ shorter _ _ rest rfl)
            · have notWord : ∀ letters, content ≠ .word letters :=
                fun letters word => isWord ⟨letters, word⟩
              rw [shape_misplaced scanned notWord]
              exact shape_misplaced token notWord _
    · obtain ⟨skipped, split, skips⟩ := shape_skip text
      obtain ⟨skippedToo, splitToo, skipsToo⟩ := shape_skip (text ++ others)
      rw [skipLayout_append_of_rest layout] at splitToo skipsToo
      have same : skippedToo ++ (skipLayout text ++ others) =
          skipped ++ (skipLayout text ++ others) := by
        rw [← splitToo, ← List.append_assoc, ← split]
      obtain rfl := List.append_cancel_right same
      refine .pass split (skips _ _) (skipsToo _ _) (inductionHypothesis _ ?_ _ _ _ rfl)
      exact Nat.lt_of_le_of_ne (skipLayout_suffix text).length_le fun equal =>
        bare ((skipLayout_suffix text).eq_of_length equal)

end Stackline.Grammar
