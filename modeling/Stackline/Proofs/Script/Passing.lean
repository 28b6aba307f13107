import Mathlib
import Stackline.Proofs.Script.Printing

/-!
# Reading follows the pieces of a text

At every place of a text that is not its end, either a piece can be passed or reading is
stuck (`munch_or_stuck`). `Turn` says what a piece does to the phrase of its line, and
`Munch.shape_eq` that reading takes this turn, also if the text ends somewhere behind the
piece. So what is read up to a place does not depend on what follows it
(`Munches.shape_eq`), and a keyword stands where its phrase is said to stand
(`keyword_stands`).
-/

namespace Stackline.Grammar

open Stackline.Script
open Stackline.Script.Lexeme (scanNewline? scanToken? chars_scanNewline?
  chars_scanToken? wellFormed_scanToken?)

variable {source : List Char}

/-! ### Texts that end earlier -/

/-- A scanner that takes as much as it can, given by what it leaves. What it takes it also
takes alone, and what it takes alone it takes wherever more follows. -/
structure Greedy (leaves : List Char → Option (List Char)) : Prop where
  alone {input rest : List Char} (found : leaves input = some rest) :
    ∃ text, input = text ++ rest ∧ leaves text = some []
  goesOn {text : List Char} (whole : leaves text = some []) (others : List Char) :
    ∃ rest, leaves (text ++ others) = some rest ∧ rest <:+ others

/-- Such a scanner stops at the same place if the text ends earlier behind it. -/
theorem Greedy.cut {leaves : List Char → Option (List Char)} (greedy : Greedy leaves)
    {text rest others : List Char} (found : leaves (text ++ rest) = some rest)
    (isPrefix : others <+: rest) : leaves (text ++ others) = some others := by
  obtain ⟨more, rfl⟩ := isPrefix
  obtain ⟨same, split, whole⟩ := greedy.alone found
  obtain rfl := List.append_cancel_right split
  obtain ⟨left, again, suffix⟩ := greedy.goesOn whole others
  -- If it took more of the shorter text, it would take as much of the longer one.
  obtain ⟨longer, longerSplit, longerWhole⟩ := greedy.alone again
  obtain ⟨unread, foundToo, unreadSuffix⟩ := greedy.goesOn longerWhole (left ++ more)
  rw [← List.append_assoc, ← longerSplit, List.append_assoc, found] at foundToo
  cases foundToo
  have bound := unreadSuffix.length_le
  simp only [List.length_append] at bound
  rw [again, suffix.eq_of_length_le (by omega)]

/-- Layout that is skipped is layout as a whole. -/
theorem skipLayout_skipped {input skipped : List Char}
    (split : input = skipped ++ skipLayout input) : skipLayout skipped = [] := by
  by_contra more
  -- What were left of it would be left of the whole text too.
  have left := skipLayout_append_of_rest more (skipLayout input)
  rw [← split] at left
  exact more (List.append_left_eq_self.1 left.symm)

theorem greedy_layout : Greedy fun input => some (skipLayout input) where
  alone := by
    rintro input _ ⟨⟩
    obtain ⟨skipped, split, -⟩ := shape_skip input
    exact ⟨skipped, split, congrArg some (skipLayout_skipped split)⟩
  goesOn whole others := ⟨_, rfl, skipLayout_append (Option.some.inj whole) others⟩

theorem greedy_newline : Greedy fun input => (scanNewline? input).map Prod.snd where
  alone := by
    intro input rest found
    obtain ⟨⟨ending, rest⟩, scanned, rfl⟩ := Option.map_eq_some_iff.1 found
    refine ⟨ending, (chars_scanNewline? scanned).1, ?_⟩
    unfold scanNewline? at scanned
    split at scanned <;> cases scanned <;> rfl
  goesOn := by
    intro text whole others
    obtain ⟨⟨ending, rest⟩, scanned, rfl⟩ := Option.map_eq_some_iff.1 whole
    obtain ⟨longer, rest, again, suffix⟩ := scanNewline?_append scanned others
    exact ⟨rest, by rw [again]; rfl, suffix⟩

/-- A token is the only one with its text. -/
theorem spells_chars {token : Token} (wellFormed : token.WellFormed) :
    Spells token.chars token := by
  cases token with
  | word letters => exact IsWord.spells wellFormed
  | number numeral => exact spells_number wellFormed
  | quoted body => exact IsBody.spells wellFormed

theorem greedy_token : Greedy fun input => (scanToken? input).map Prod.snd where
  alone := by
    intro input rest found
    obtain ⟨⟨token, rest⟩, scanned, rfl⟩ := Option.map_eq_some_iff.1 found
    refine ⟨token.chars, (chars_scanToken? scanned).1, ?_⟩
    rw [spells_chars (wellFormed_scanToken? scanned)]
    rfl
  goesOn := by
    intro text whole others
    obtain ⟨⟨token, rest⟩, scanned, rfl⟩ := Option.map_eq_some_iff.1 whole
    obtain ⟨longer, rest, again, suffix⟩ := scanToken?_append scanned others
    exact ⟨rest, by rw [again]; rfl, suffix⟩

theorem skipLayout_cut {skipped rest others : List Char}
    (layout : skipLayout (skipped ++ rest) = rest) (isPrefix : others <+: rest) :
    skipLayout (skipped ++ others) = others :=
  Option.some.inj (greedy_layout.cut (congrArg some layout) isPrefix)

theorem scanNewline?_cut {ending rest others : List Char}
    (scanned : scanNewline? (ending ++ rest) = some (ending, rest)) (isPrefix : others <+: rest) :
    scanNewline? (ending ++ others) = some (ending, others) := by
  have left := greedy_newline.cut (by rw [scanned]; rfl) isPrefix
  obtain ⟨⟨again, others⟩, scannedToo, rfl⟩ := Option.map_eq_some_iff.1 left
  obtain rfl := List.append_cancel_right (chars_scanNewline? scannedToo).1
  exact scannedToo

theorem scanToken?_cut {rest others : List Char} {token : Token}
    (scanned : scanToken? (token.chars ++ rest) = some (token, rest))
    (isPrefix : others <+: rest) : scanToken? (token.chars ++ others) = some (token, others) := by
  have left := greedy_token.cut (by rw [scanned]; rfl) isPrefix
  obtain ⟨⟨again, others⟩, scannedToo, rfl⟩ := Option.map_eq_some_iff.1 left
  have same := List.append_cancel_right (chars_scanToken? scannedToo).1
  have spells : scanToken? token.chars = some (again, []) :=
    same ▸ spells_chars (wellFormed_scanToken? scannedToo)
  cases spells.symm.trans (spells_chars (wellFormed_scanToken? scanned))
  exact scannedToo

/-! ### One piece -/

/-- What is done to the phrase of a line by a piece of text at a place: phrases that it
completes, and the phrase of the line behind it. -/
inductive Turn (position : Position) (text : List Char) :
    Piece → Option Phrase → List Phrase → Option Phrase → Prop where
  | skip {current} : Turn position text .skip current [] current
  | newline {current : Option Phrase} : Turn position text .newline current current.toList none
  | keyword : Turn position text (.token .ident) none [] (some ⟨position, text, []⟩)
  | argument {name : Rule} {phrase : Phrase} {token : Token}
      (labelled : tokenLabel token = (name, text)) :
      Turn position text (.token name) (some phrase) []
        (some { phrase with arguments := phrase.arguments ++ [token] })

theorem Turn.isSome_eq {position : Position} {text : List Char} {piece : Piece}
    {current next : Option Phrase} {done : List Phrase}
    (turn : Turn position text piece current done next) :
    next.isSome = piece.after current.isSome := by
  cases turn <;> rfl

theorem tokenLabel_eq (token : Token) : tokenLabel token = ((tokenLabel token).1, token.chars) := by
  cases token <;> rfl

/-- The scanners find a piece that is a token. -/
theorem Munch.scanToken?_eq {keyword : Bool} {name : Rule} {input text rest : List Char}
    (munch : Munch source keyword (.token name) input text rest) :
    ∃ token, scanToken? (text ++ rest) = some (token, rest) ∧ tokenLabel token = (name, text) := by
  obtain ⟨trees, found⟩ := munch.found
  rw [munch.split] at found
  obtain ⟨token, scanned, named⟩ := scanToken?_of_matches (mem_tokenRules munch.allowed) found
  have spelled := List.append_cancel_right (chars_scanToken? scanned).1
  exact ⟨token, scanned, by rw [tokenLabel_eq, named, ← spelled]⟩

/-- Reading takes the turn of a piece, wherever the text ends behind it. -/
theorem Munch.shape_eq {current : Option Phrase} {piece : Piece} {input text rest : List Char}
    (munch : Munch source current.isSome piece input text rest) (position : Position) :
    ∃ done next, Turn position text piece current done next ∧
      ∀ others, others <+: rest → shape position current (text ++ others) =
        (shape (position.advance text) next others).map (done ++ ·) := by
  cases piece with
  | skip =>
    have layout : skipLayout (text ++ rest) = rest := by
      obtain ⟨trees, found⟩ := munch.found
      rw [munch.split] at found
      exact (Prod.mk.inj (Option.some.inj ((matches_layout _).deterministic found))).2
    refine ⟨[], current, .skip, fun others isPrefix => ?_⟩
    obtain ⟨skipped, split, skips⟩ := shape_skip (text ++ others)
    rw [skipLayout_cut layout isPrefix] at split skips
    obtain rfl := List.append_cancel_right split
    rw [skips, map_nil_append]
  | newline =>
    have scanned : scanNewline? (text ++ rest) = some (text, rest) := by
      obtain ⟨trees, found⟩ := munch.found
      rw [munch.split] at found
      obtain ⟨⟨ending, after⟩, newline, equal⟩ :=
        Option.map_eq_some_iff.1 ((matches_newline _).deterministic found)
      cases equal
      rw [newline, List.append_cancel_right (chars_scanNewline? newline).1]
    exact ⟨_, none, .newline, fun others isPrefix =>
      shape_newline (scanNewline?_cut scanned isPrefix) position current⟩
  | token name =>
    obtain ⟨token, scanned, labelled⟩ := munch.scanToken?_eq
    obtain ⟨rfl, rfl⟩ := Prod.mk.inj ((tokenLabel_eq token).symm.trans labelled)
    cases current with
    | none =>
      obtain ⟨letters, rfl⟩ := mem_nextTokens_false.1 munch.allowed
      refine ⟨[], _, .keyword, fun others isPrefix => ?_⟩
      rw [shape_keyword (scanToken?_cut scanned isPrefix), map_nil_append]
      rfl
    | some phrase =>
      refine ⟨[], _, .argument labelled, fun others isPrefix => ?_⟩
      rw [shape_argument (scanToken?_cut scanned isPrefix), map_nil_append]

/-- Reading is refused where it is stuck. -/
theorem Stuck.shape_eq {current : Option Phrase} {input : List Char}
    (stuck : Stuck source current.isSome input) (position : Position) :
    shape position current input = .error (.of position current) := by
  have bare : skipLayout input = input :=
    (Prod.mk.inj (Option.some.inj ((matches_layout input).deterministic stuck.skipped))).2
  have notNewline : scanNewline? input = none :=
    Option.map_eq_none_iff.1 ((matches_newline input).deterministic stuck.notNewline)
  cases scanned : scanToken? input with
  | none => exact shape_unreadable stuck.unfinished bare notNewline scanned position current
  | some found =>
    obtain ⟨token, rest⟩ := found
    have barred : (tokenLabel token).1 ∉ nextTokens current.isSome := by
      intro allowed
      have found := @matches_token source _ (mem_tokenRules allowed) input
      simp only [scanAs, scanned, if_true] at found
      cases (stuck.notToken _ allowed).deterministic found
    cases current with
    | none =>
      exact shape_misplaced scanned
        (fun letters word => barred (mem_nextTokens_false.2 ⟨letters, word⟩)) position
    | some phrase => exact absurd (mem_nextTokens_true token) barred

/-- A text ends, or reading it is stuck, or a piece can be passed. -/
theorem munch_or_stuck (keyword : Bool) (input : List Char) :
    input = [] ∨ Stuck source keyword input ∨
      ∃ piece text rest, Munch source keyword piece input text rest := by
  by_cases bare : skipLayout input = input
  · cases newline : scanNewline? input with
    | some found => exact .inr (.inr ⟨_, _, _, munch_newline newline⟩)
    | none =>
      by_cases finished : input = []
      · exact .inl finished
      by_cases allowed : ∃ token rest, scanToken? input = some (token, rest) ∧
          (tokenLabel token).1 ∈ nextTokens keyword
      · obtain ⟨token, rest, scanned, allowed⟩ := allowed
        exact .inr (.inr ⟨_, _, _, munch_token scanned allowed⟩)
      · refine .inr (.inl (stuck_of_scans finished bare newline ?_))
        exact fun token rest scanned allows => allowed ⟨token, rest, scanned, allows⟩
  · obtain ⟨skipped, split, -⟩ := shape_skip input
    exact .inr (.inr ⟨_, _, _, munch_skip split bare⟩)

/-! ### Up to a place -/

theorem Munches.split {keyword last : Bool} {input passed unread : List Char}
    (munches : Munches source keyword input passed last unread) : input = passed ++ unread := by
  induction munches with
  | done => rfl
  | step first _ inductionHypothesis =>
    rw [first.split, inductionHypothesis, List.append_assoc]

/-- What is read up to a place is read whatever follows: some phrases are complete, and
one may stand open. -/
theorem Munches.shape_eq {keyword last : Bool} {input passed unread : List Char}
    (munches : Munches source keyword input passed last unread) (current : Option Phrase)
    (opened : current.isSome = keyword) (position : Position) :
    ∃ done next, (next : Option Phrase).isSome = last ∧
      ∀ others, others <+: unread → shape position current (passed ++ others) =
        (shape (position.advance passed) next others).map (done ++ ·) := by
  induction munches generalizing current position with
  | done =>
    exact ⟨[], current, opened, fun others _ => (map_nil_append _).symm⟩
  | @step _ _ _ text rest passed _ unread first others inductionHypothesis =>
    subst opened
    obtain ⟨done, middle, turn, reads⟩ := first.shape_eq position
    obtain ⟨later, next, ends, readsOn⟩ :=
      inductionHypothesis middle turn.isSome_eq (position.advance text)
    refine ⟨done ++ later, next, ends, fun more isPrefix => ?_⟩
    have within : passed ++ more <+: rest := by
      rw [others.split]
      exact (List.prefix_append_right_inj passed).2 isPrefix
    rw [List.append_assoc, reads _ within, readsOn more isPrefix, Position.advance_append]
    cases shape ((position.advance text).advance passed) next more <;> simp [Except.map]

/-- The phrase of a line stays the first of what is read. -/
theorem shape_open {position : Position} {phrase : Phrase} {input : List Char}
    {found : List Phrase} (read : shape position (some phrase) input = .ok found) :
    ∃ arguments later, found = ⟨phrase.position, phrase.keyword, arguments⟩ :: later := by
  rw [shape] at read
  generalize (lexemes input).2 = unread, (lexemes input).1 = lexemes at read
  induction lexemes generalizing position phrase with
  | nil =>
    unfold group at read
    split at read
    · cases read
      exact ⟨_, _, rfl⟩
    · cases read
  | cons lexeme rest inductionHypothesis =>
    cases lexeme with
    | blank spaces => exact inductionHypothesis read
    | comment remark => exact inductionHypothesis read
    | newline ending =>
      rw [group] at read
      cases others : group (position.advance ending) none unread rest with
      | error refusal => simp [others, Except.map] at read
      | ok later =>
        simp only [others, Except.map, Except.ok.injEq] at read
        exact ⟨_, later, read.symm⟩
    | token token =>
      obtain ⟨arguments, later, equal⟩ := inductionHypothesis read
      exact ⟨arguments, later, equal⟩

/-- The keyword of a phrase stands behind pieces of a text, at the position of the phrase.
The phrases before it are those of the text before it. -/
def Stands (source : List Char) (position : Position) (current : Option Phrase)
    (input : List Char) (earlier : List Phrase) (phrase : Phrase) : Prop :=
  ∃ passed unread rest, Munches source current.isSome input passed false unread ∧
    Munch source false (.token .ident) unread phrase.keyword rest ∧
    phrase.position = position.advance passed ∧ shape position current passed = .ok earlier

/-- A keyword that stands behind a piece stands in the text with the piece. -/
theorem Stands.step {position : Position} {text rest input : List Char} {piece : Piece}
    {current next : Option Phrase} {done earlier : List Phrase} {phrase : Phrase}
    (stands : Stands source (position.advance text) next rest earlier phrase)
    (munch : Munch source current.isSome piece input text rest)
    (turn : Turn position text piece current done next)
    (reads : ∀ others, others <+: rest → shape position current (text ++ others) =
      (shape (position.advance text) next others).map (done ++ ·)) :
    Stands source position current input (done ++ earlier) phrase := by
  obtain ⟨passed, unread, after, munches, keyword, place, readBefore⟩ := stands
  rw [turn.isSome_eq] at munches
  refine ⟨text ++ passed, unread, after, .step munch munches, keyword, ?_, ?_⟩
  · rw [place, Position.advance_append]
  · rw [reads passed ⟨unread, munches.split.symm⟩, readBefore]
    rfl

/-- A keyword stands where its phrase is said to stand. -/
theorem keyword_stands {position : Position} {current : Option Phrase} {input : List Char}
    {earlier later : List Phrase} {phrase : Phrase}
    (read : shape position current input = .ok (earlier ++ phrase :: later))
    (behind : current.toList.length ≤ earlier.length) :
    Stands source position current input earlier phrase := by
  induction size : input.length using Nat.strongRecOn
      generalizing position current input earlier with
  | ind size inductionHypothesis =>
    subst size
    rcases @munch_or_stuck source current.isSome input with rfl | stuck | ⟨piece, text, rest, munch⟩
    · rw [shape_nil] at read
      have lengths := congrArg List.length (Except.ok.inj read)
      simp only [List.length_append, List.length_cons] at lengths
      omega
    · rw [stuck.shape_eq] at read
      cases read
    · obtain ⟨done, next, turn, reads⟩ := munch.shape_eq position
      have whole := reads rest List.prefix_rfl
      rw [← munch.split, read] at whole
      cases others : shape (position.advance text) next rest with
      | error refusal => simp [others, Except.map] at whole
      | ok found =>
        simp only [others, Except.map, Except.ok.injEq] at whole
        -- The phrase is found further on, unless the piece is its keyword.
        have further {before : List Phrase} (split : earlier = done ++ before)
            (beyond : next.toList.length ≤ before.length) :
            Stands source position current input earlier phrase := by
          subst split
          rw [List.append_assoc, List.append_cancel_left_eq] at whole
          rw [← whole] at others
          exact (inductionHypothesis _ munch.shorter others beyond rfl).step munch turn reads
        cases turn with
        | skip => exact further rfl behind
        | newline =>
          obtain ⟨before, split⟩ := List.prefix_of_prefix_length_le ⟨_, rfl⟩ ⟨_, whole⟩ behind
          exact further split.symm (Nat.zero_le _)
        | keyword =>
          cases earlier with
          | nil =>
            obtain ⟨arguments, others, first⟩ := shape_open others
            cases whole.trans first
            exact ⟨[], input, rest, .done, munch, rfl, shape_nil position none⟩
          | cons first others => exact further rfl (by simp)
        | argument _ => exact further rfl behind

end Stackline.Grammar
