import Mathlib
import Stackline.Proofs.Grammar.Longest
import Stackline.Script.Statement

/-!
# Where a script is refused

A source text is passed piece by piece, each piece as long as its rule goes: layout, a
line ending, or a token that may stand there. Before the keyword of a line only a word
may stand, behind it any token. The text is refused at the one place where this gets
stuck before the end (`refused_stopsAfter`, `StopsAfter.unique`). Together with the match
of the grammar this says what reading a script does on every source
(`parse_implements_grammar`).
-/

namespace Stackline.Grammar

open Stackline.Script
open Stackline.Script.Lexeme (scanNewline? scanToken? chars_scanNewline? chars_scanToken?)

variable {source : List Char}

/-- What a source text is passed by. -/
inductive Piece where
  | skip
  | newline
  | token (name : Rule)
  deriving DecidableEq, Repr

/-- The rules of the tokens that may stand next on a line, without or with its keyword. -/
def nextTokens (keyword : Bool) : List Rule :=
  if keyword then tokenRules else [.ident]

namespace Piece

/-- What a piece is a match of. -/
def expression : Piece → Expr Rule
  | .skip => Rule.layout
  | .newline => .rule .newline
  | .token name => .rule name

/-- Whether a piece may stand next on a line. -/
def Allowed (keyword : Bool) : Piece → Prop
  | .skip => True
  | .newline => True
  | .token name => name ∈ nextTokens keyword

/-- Whether the line has its keyword behind a piece. -/
def after (keyword : Bool) : Piece → Bool
  | .skip => keyword
  | .newline => false
  | .token _ => true

end Piece

/-- A piece at the head of an input: a nonempty match that is the longest of its rule, in
that the rule matches no longer text at the head of the input from end to end. -/
structure Munch (source : List Char) (keyword : Bool) (piece : Piece)
    (input text rest : List Char) : Prop where
  allowed : piece.Allowed keyword
  split : input = text ++ rest
  taken : text ≠ []
  found : ∃ trees, Matches scripts source piece.expression input (some (trees, rest))
  longest : ∀ longer others trees, input = longer ++ others →
    Matches scripts longer piece.expression longer (some (trees, [])) →
    longer.length ≤ text.length

/-- A text is passed piece by piece, up to a place from which on it is unread. -/
inductive Munches (source : List Char) :
    Bool → List Char → List Char → Bool → List Char → Prop where
  | done {keyword unread} : Munches source keyword unread [] keyword unread
  | step {keyword piece input text rest passed last unread}
      (first : Munch source keyword piece input text rest)
      (others : Munches source (piece.after keyword) rest passed last unread) :
      Munches source keyword input (text ++ passed) last unread

/-- A place that is not the end and behind all layout, where neither a line ending nor a
token that may stand there is found. -/
structure Stuck (source : List Char) (keyword : Bool) (unread : List Char) : Prop where
  unfinished : unread ≠ []
  skipped : Matches scripts source Rule.layout unread (some ([], unread))
  notNewline : Matches scripts source (.rule .newline) unread none
  notToken : ∀ name ∈ nextTokens keyword, Matches scripts source (.rule name) unread none

/-- Behind a stretch of text that can be passed, reading is stuck. -/
def StopsAfter (source : List Char) (keyword : Bool) (input passed : List Char) : Prop :=
  ∃ last unread, Munches source keyword input passed last unread ∧ Stuck source last unread

theorem mem_tokenRules {keyword : Bool} {name : Rule} (allowed : name ∈ nextTokens keyword) :
    name ∈ tokenRules := by
  cases keyword with
  | false =>
    cases List.mem_singleton.1 allowed
    decide
  | true => exact allowed

/-! ### Pieces are what the scanners find -/

/-- The piece that the scanners find at the head of an input, and what follows it. -/
def nextPiece (input : List Char) : Option (Piece × List Char) :=
  if skipLayout input ≠ input then some (.skip, skipLayout input)
  else
    match scanNewline? input with
    | some (_, rest) => some (.newline, rest)
    | none => (scanToken? input).map fun (token, rest) => (.token (tokenLabel token).1, rest)

theorem nextPiece_skip {input : List Char} (layout : skipLayout input ≠ input) :
    nextPiece input = some (.skip, skipLayout input) :=
  if_pos layout

theorem nextPiece_newline {input ending rest : List Char}
    (scanned : scanNewline? input = some (ending, rest)) :
    nextPiece input = some (.newline, rest) := by
  have bare : skipLayout input = input := by
    cases input with
    | nil => rfl
    | cons c tail => exact skipLayout_eq_self (by simpa using (opens_newline scanned).1)
  simp [nextPiece, bare, scanned]

theorem nextPiece_token {input rest : List Char} {token : Token}
    (scanned : scanToken? input = some (token, rest)) :
    nextPiece input = some (.token (tokenLabel token).1, rest) := by
  cases input with
  | nil => cases scanned
  | cons c tail =>
    obtain ⟨notLayout, notEnding⟩ := opens_token scanned
    have bare : skipLayout (c :: tail) = c :: tail := skipLayout_eq_self (by simpa using notLayout)
    have notNewline : scanNewline? (c :: tail) = none := by
      rw [Option.eq_none_iff_forall_ne_some]
      intro found newline
      exact absurd (opens_newline newline).2 (by simp [notEnding])
    simp [nextPiece, bare, notNewline, scanned]

/-- A token of a rule, as the rule is matched. -/
theorem scanToken?_of_matches {name : Rule} (isToken : name ∈ tokenRules)
    {input rest : List Char} {trees : List (Tree Rule)}
    (found : Matches scripts source (.rule name) input (some (trees, rest))) :
    ∃ token, scanToken? input = some (token, rest) ∧ (tokenLabel token).1 = name := by
  have scanned := (matches_token isToken input).deterministic found
  unfold scanAs at scanned
  split at scanned
  · cases scanned
  · rename_i token after equal
    split at scanned
    · rename_i named
      cases scanned
      exact ⟨token, equal, named⟩
    · cases scanned

/-- The scanners find every piece. -/
theorem Munch.nextPiece_eq {keyword : Bool} {piece : Piece} {input text rest : List Char}
    (munch : Munch source keyword piece input text rest) :
    nextPiece input = some (piece, rest) := by
  obtain ⟨trees, found⟩ := munch.found
  cases piece with
  | skip =>
    cases (matches_layout input).deterministic found
    refine nextPiece_skip fun same => munch.taken ?_
    have split := munch.split
    rw [same] at split
    exact List.append_left_eq_self.1 split.symm
  | newline =>
    have scanned := (matches_newline input).deterministic found
    obtain ⟨⟨ending, after⟩, newline, equal⟩ := Option.map_eq_some_iff.1 scanned
    cases equal
    exact nextPiece_newline newline
  | token name =>
    obtain ⟨token, scanned, rfl⟩ := scanToken?_of_matches (mem_tokenRules munch.allowed) found
    exact nextPiece_token scanned

theorem length_le_of_suffix {input text rest longer others : List Char}
    (split : input = text ++ rest) (other : input = longer ++ others) (suffix : rest <:+ others) :
    longer.length ≤ text.length := by
  have lengths := congrArg List.length (split.symm.trans other)
  have bound := suffix.length_le
  simp only [List.length_append] at lengths
  omega

theorem munch_skip {keyword : Bool} {input skipped : List Char}
    (split : input = skipped ++ skipLayout input) (layout : skipLayout input ≠ input) :
    Munch source keyword .skip input skipped (skipLayout input) where
  allowed := trivial
  split := split
  taken := by
    rintro rfl
    exact layout split.symm
  found := ⟨_, matches_layout input⟩
  longest := by
    intro longer others trees other whole
    obtain ⟨-, ended⟩ := Prod.mk.inj (Option.some.inj ((matches_layout longer).deterministic whole))
    refine length_le_of_suffix split other ?_
    rw [other]
    exact skipLayout_append ended others

theorem munch_newline {keyword : Bool} {input ending rest : List Char}
    (scanned : scanNewline? input = some (ending, rest)) :
    Munch source keyword .newline input ending rest where
  allowed := trivial
  split := (chars_scanNewline? scanned).1
  taken := (chars_scanNewline? scanned).2
  found := by
    have newline := @matches_newline source input
    rw [scanned] at newline
    exact ⟨_, newline⟩
  longest := by
    intro longer others trees other whole
    obtain ⟨⟨all, left⟩, again, equal⟩ :=
      Option.map_eq_some_iff.1 ((matches_newline longer).deterministic whole)
    cases equal
    obtain ⟨more, after, found, suffix⟩ := scanNewline?_append again others
    rw [← other, scanned] at found
    cases found
    exact length_le_of_suffix (chars_scanNewline? scanned).1 other suffix

theorem munch_token {keyword : Bool} {input rest : List Char} {token : Token}
    (scanned : scanToken? input = some (token, rest))
    (allowed : (tokenLabel token).1 ∈ nextTokens keyword) :
    Munch source keyword (.token (tokenLabel token).1) input token.chars rest where
  allowed := allowed
  split := (chars_scanToken? scanned).1
  taken := (chars_scanToken? scanned).2
  found := by
    have found := @matches_token source _ (mem_tokenRules allowed) input
    simp only [scanAs, scanned, if_true] at found
    exact ⟨_, found⟩
  longest := by
    intro longer others trees other whole
    obtain ⟨all, again, -⟩ := scanToken?_of_matches (mem_tokenRules allowed) whole
    obtain ⟨more, after, found, suffix⟩ := scanToken?_append again others
    rw [← other, scanned] at found
    cases found
    exact length_le_of_suffix (chars_scanToken? scanned).1 other suffix

theorem mem_nextTokens_false {token : Token} :
    (tokenLabel token).1 ∈ nextTokens false ↔ ∃ letters, token = .word letters := by
  cases token <;> simp [tokenLabel, nextTokens]

theorem mem_nextTokens_true (token : Token) : (tokenLabel token).1 ∈ nextTokens true := by
  cases token <;> simp [tokenLabel, nextTokens, tokenRules]

/-! ### The place is the only one -/

/-- Where reading is stuck no piece stands. -/
theorem Stuck.no_piece {keyword : Bool} {piece : Piece} {input text rest : List Char}
    (stuck : Stuck source keyword input) : ¬Munch source keyword piece input text rest := by
  intro munch
  obtain ⟨trees, found⟩ := munch.found
  cases piece with
  | skip =>
    cases stuck.skipped.deterministic found
    exact munch.taken (List.append_left_eq_self.1 munch.split.symm)
  | newline => cases stuck.notNewline.deterministic found
  | token name => cases (stuck.notToken name munch.allowed).deterministic found

/-- There is one way to pass a text, and at most one place where it gets stuck. -/
theorem StopsAfter.unique {keyword : Bool} {input passed other : List Char}
    (stops : StopsAfter source keyword input passed)
    (stopsToo : StopsAfter source keyword input other) : other = passed := by
  obtain ⟨last, unread, munches, stuck⟩ := stops
  obtain ⟨last', unread', munches', stuck'⟩ := stopsToo
  induction munches generalizing other with
  | done =>
    cases munches' with
    | done => rfl
    | step first others => exact absurd first stuck.no_piece
  | step first others inductionHypothesis =>
    cases munches' with
    | done => exact absurd first stuck'.no_piece
    | step first' others' =>
      cases first.nextPiece_eq.symm.trans first'.nextPiece_eq
      have same := first.split.symm.trans first'.split
      rw [List.append_cancel_right_eq] at same
      rw [same, inductionHypothesis stuck others']

/-! ### Refusals -/

/-- Reading gets stuck where nothing stands that may stand there. -/
theorem stuck_of_scans {keyword : Bool} {input : List Char} (unfinished : input ≠ [])
    (bare : skipLayout input = input) (notNewline : scanNewline? input = none)
    (notToken : ∀ token rest, scanToken? input = some (token, rest) →
      (tokenLabel token).1 ∉ nextTokens keyword) : Stuck source keyword input where
  unfinished := unfinished
  skipped := by
    have layout := @matches_layout source input
    rwa [bare] at layout
  notNewline := by
    have newline := @matches_newline source input
    rwa [notNewline] at newline
  notToken := by
    intro name allowed
    refine matches_token_none (mem_tokenRules allowed) fun token rest scanned => ?_
    rintro rfl
    exact notToken token rest scanned allowed

theorem Stuck.stopsAfter {keyword : Bool} {input : List Char}
    (stuck : Stuck source keyword input) : StopsAfter source keyword input [] :=
  ⟨keyword, input, .done, stuck⟩

theorem Munch.stopsAfter {keyword : Bool} {piece : Piece} {input text rest passed : List Char}
    (munch : Munch source keyword piece input text rest)
    (stops : StopsAfter source (piece.after keyword) rest passed) :
    StopsAfter source keyword input (text ++ passed) := by
  obtain ⟨last, unread, munches, stuck⟩ := stops
  exact ⟨last, unread, munches.step munch, stuck⟩

theorem Munch.shorter {keyword : Bool} {piece : Piece} {input text rest : List Char}
    (munch : Munch source keyword piece input text rest) : rest.length < input.length := by
  have positive := List.length_pos_iff.2 munch.taken
  rw [munch.split, List.length_append]
  omega

/-- A text is refused at a place where passing it gets stuck. -/
theorem refused_stopsAfter {position : Position} {current : Option Phrase} {input : List Char}
    {refusal : Refusal} (refused : shape position current input = .error refusal) :
    ∃ passed, StopsAfter source current.isSome input passed ∧
      refusal.position = position.advance passed := by
  induction size : input.length using Nat.strongRecOn generalizing position current input with
  | ind size inductionHypothesis =>
    subst size
    -- One piece is passed, and the text behind it is refused.
    have step {piece text rest next} (munch : Munch source current.isSome piece input text rest)
        (continues : next.isSome = piece.after current.isSome)
        (later : shape (position.advance text) next rest = .error refusal) :
        ∃ passed, StopsAfter source current.isSome input passed ∧
          refusal.position = position.advance passed := by
      obtain ⟨passed, stops, place⟩ := inductionHypothesis _ munch.shorter later rfl
      rw [continues] at stops
      exact ⟨text ++ passed, munch.stopsAfter stops, by rw [place, Position.advance_append]⟩
    by_cases bare : skipLayout input = input
    · cases newline : scanNewline? input with
      | some found =>
        rw [shape_newline newline] at refused
        cases later : shape (position.advance found.1) none found.2 with
        | ok others => simp [later, Except.map] at refused
        | error other =>
          rw [later] at refused
          cases refused
          exact step (munch_newline newline) rfl later
      | none =>
        by_cases finished : input = []
        · rw [finished, shape_nil] at refused
          cases refused
        cases scanned : scanToken? input with
        | none =>
          rw [shape_unreadable finished bare newline scanned] at refused
          cases refused
          refine ⟨[], (stuck_of_scans finished bare newline ?_).stopsAfter, rfl⟩
          intro token rest other
          cases scanned.symm.trans other
        | some found =>
          obtain ⟨token, rest⟩ := found
          cases current with
          | some phrase =>
            rw [shape_argument scanned] at refused
            exact step (munch_token scanned (mem_nextTokens_true token)) rfl refused
          | none =>
            by_cases isWord : ∃ letters, token = .word letters
            · obtain ⟨letters, rfl⟩ := isWord
              rw [shape_keyword scanned] at refused
              exact step (munch_token scanned (mem_nextTokens_false.2 ⟨letters, rfl⟩)) rfl refused
            · rw [shape_misplaced scanned fun letters word => isWord ⟨letters, word⟩] at refused
              cases refused
              refine ⟨[], (stuck_of_scans finished bare newline ?_).stopsAfter, rfl⟩
              intro other after again allowed
              cases scanned.symm.trans again
              exact isWord (mem_nextTokens_false.1 allowed)
    · obtain ⟨skipped, split, skips⟩ := shape_skip input
      rw [skips] at refused
      exact step (munch_skip split bare) rfl refused

theorem StopsAfter.isPrefix {keyword : Bool} {input passed : List Char}
    (stops : StopsAfter source keyword input passed) : passed <+: input := by
  obtain ⟨last, unread, munches, stuck⟩ := stops
  refine ⟨unread, ?_⟩
  induction munches with
  | done => rfl
  | step first others inductionHypothesis =>
    rw [first.split, List.append_assoc, inductionHypothesis stuck]

/-- The line of a place counts the line feeds before it, and the column the characters
since the last one. -/
theorem advance_start (passed : List Char) :
    Position.start.advance passed =
      ⟨passed.count '\n' + 1, (passed.reverse.takeWhile (· ≠ '\n')).length + 1⟩ := by
  induction passed using List.reverseRecOn with
  | nil => rfl
  | append_singleton passed c inductionHypothesis =>
    rw [Position.advance_append, inductionHypothesis]
    by_cases feed : c = '\n' <;> simp [Position.next, feed]

/-- Reading a script implements the grammar. A source is read iff the grammar matches it
from end to end, and then the phrases are the statements of the match, with the rule and
the text of each token. Any other source is refused at the place where passing it by
longest matches gets stuck, and there is one such place. -/
theorem parse_implements_grammar (source : String) :
    ((∃ found, phrases source.toList = .ok found) ↔
      ∃ trees, Matches scripts source.toList (.rule .script) source.toList (some (trees, []))) ∧
    (∀ found, phrases source.toList = .ok found →
      parse source = found.mapM Phrase.statement ∧
      ∀ trees rest,
        Matches scripts source.toList (.rule .script) source.toList (some (trees, rest)) →
        rest = [] ∧ trees.flatMap Tree.statements = found.map phraseLabels) ∧
    ∀ refusal, phrases source.toList = .error refusal →
      parse source = .error ⟨refusal.position, .expected refusal.expectation⟩ ∧
      ∃ passed, passed <+: source.toList ∧
        (∀ other, StopsAfter source.toList false source.toList other ↔ other = passed) ∧
        refusal.position =
          ⟨passed.count '\n' + 1, (passed.reverse.takeWhile (· ≠ '\n')).length + 1⟩ := by
  have outcome := phrases_outcome source.toList
  refine ⟨?_, ?_, ?_⟩
  · cases read : phrases source.toList with
    | ok found =>
      rw [read] at outcome
      obtain ⟨tree, whole, -⟩ := outcome
      exact ⟨fun _ => ⟨_, whole⟩, fun _ => ⟨found, rfl⟩⟩
    | error refusal =>
      rw [read] at outcome
      constructor
      · rintro ⟨found, equal⟩
        cases equal
      · rintro ⟨trees, whole⟩
        cases outcome.deterministic whole
  · intro found read
    rw [read] at outcome
    obtain ⟨tree, whole, parts⟩ := outcome
    refine ⟨by rw [parse, parseChars, read], fun trees rest again => ?_⟩
    cases whole.deterministic again
    exact ⟨rfl, by simpa using statements_eq_of_parts parts⟩
  · intro refusal read
    obtain ⟨passed, stops, place⟩ := @refused_stopsAfter source.toList _ _ _ _ read
    refine ⟨by rw [parse, parseChars, read], passed, stops.isPrefix, fun other => ?_, ?_⟩
    · exact ⟨stops.unique, by rintro rfl; exact stops⟩
    · rw [place, advance_start]

/-- Tokens need no blanks between them, but a word takes the digits behind it, and then no
point may follow. -/
theorem parse_implements_grammar_adjacent_tokens :
    (∃ trees, Matches scripts "push-3".toList (.rule .script) "push-3".toList (some (trees, [])) ∧
      trees.flatMap Tree.statements = [[(.ident, "push".toList), (.number, "-3".toList)]]) ∧
    phrases "push1.5".toList = .error ⟨⟨1, 6⟩, .argument⟩ ∧
    ∃ passed, passed <+: "push1.5".toList ∧
      StopsAfter "push1.5".toList false "push1.5".toList passed := by
  have read : phrases "push-3".toList =
      .ok [⟨⟨1, 1⟩, "push".toList, [.number ⟨true, ['3'], none, none⟩]⟩] := by
    cbv
  have refused : phrases "push1.5".toList = .error ⟨⟨1, 6⟩, .argument⟩ := by
    cbv
  obtain ⟨accepted, statements, -⟩ := parse_implements_grammar "push-3"
  obtain ⟨trees, whole⟩ := accepted.1 ⟨_, read⟩
  obtain ⟨-, -, refusals⟩ := parse_implements_grammar "push1.5"
  obtain ⟨-, passed, isPrefix, stops, -⟩ := refusals _ refused
  exact ⟨⟨trees, whole, (((statements _ read).2 trees [] whole).2).trans rfl⟩, refused, passed,
    isPrefix, (stops passed).2 rfl⟩

end Stackline.Grammar
