import Stackline.Proofs.Grammar.Tokens

/-!
# Reading phrases is matching the grammar

`shape` is what is left to do at a place of a source text: to group the rest of it. Its
equations follow what stands at that place, layout, a line ending or a token, as the
rules of the grammar do. From them `phrases_outcome` relates the phrases of a source to
the match of the grammar, line by line. Where a text is refused is not said here.
-/

namespace Stackline.Grammar

open Stackline.Script
open Stackline.Script.Lexeme (isSpace isEnding isWordStart scanNewline? scanToken? scan?
  chars_scanNewline? chars_scanToken?)
open Stackline.Number

variable {source : List Char}

/-! ### Layout is skipped at once -/

/-- The characters that open layout. -/
def opensLayout (c : Char) : Bool :=
  isSpace c || c = '#'

/-- Behind skipped layout none opens. -/
theorem opensLayout_head_skipLayout {input : List Char} {c : Char}
    (head : c ∈ (skipLayout input).head?) : opensLayout c = false := by
  unfold skipLayout at head
  split at head
  · have ending := isEnding_head_dropWhile head
    grind [opensLayout, isSpace, isEnding]
  · rename_i unmarked
    have kept := List.head?_dropWhile_not isSpace input
    rw [Option.mem_def.1 head] at kept
    have notMark : c ≠ '#' := by
      rintro rfl
      obtain ⟨rest, equal⟩ := List.head?_eq_some_iff.1 head
      exact unmarked rest equal
    simpa [opensLayout, notMark] using kept

theorem skipLayout_eq_self {input : List Char}
    (bare : ∀ c ∈ input.head?, opensLayout c = false) : skipLayout input = input := by
  cases input with
  | nil => rfl
  | cons c rest =>
    have closed := bare c rfl
    simp only [opensLayout, Bool.or_eq_false_iff, decide_eq_false_iff_not] at closed
    simp [skipLayout, closed]

@[simp] theorem skipLayout_skipLayout (input : List Char) :
    skipLayout (skipLayout input) = skipLayout input :=
  skipLayout_eq_self fun _ => opensLayout_head_skipLayout

theorem skipLayout_suffix (input : List Char) : skipLayout input <:+ input :=
  (@matches_layout [] input).suffix

/-! ### What is left to do at a place -/

/-- Group the rest of a source text, from a place on. -/
def shape (position : Position) (current : Option Phrase) (input : List Char) :
    Except Refusal (List Phrase) :=
  group position current (lexemes input).2 (lexemes input).1

theorem phrases_eq_shape (source : List Char) : phrases source = shape .start none source := rfl

theorem lexemes_eq_nil {input : List Char} (unread : scan? input = none) :
    lexemes input = ([], input) := by
  unfold lexemes
  split
  · rfl
  · rename_i scanned
    cases unread.symm.trans scanned

theorem lexemes_eq_cons {input rest : List Char} {lexeme : Lexeme}
    (scanned : scan? input = some (lexeme, rest)) :
    lexemes input = (lexeme :: (lexemes rest).1, (lexemes rest).2) := by
  rw [lexemes]
  split
  · rename_i unread
    cases unread.symm.trans scanned
  · rename_i again
    cases again.symm.trans scanned
    rfl

theorem shape_blanks (position : Position) (current : Option Phrase) (input : List Char) :
    shape position current input =
      shape (position.advance (input.takeWhile isSpace)) current (input.dropWhile isSpace) := by
  cases input with
  | nil => rfl
  | cons c rest =>
    by_cases space : isSpace c
    · have scanned : scan? (c :: rest) =
          some (.blank (c :: rest.takeWhile isSpace), rest.dropWhile isSpace) := by
        simp [scan?, space]
      rw [List.takeWhile_cons_of_pos space, List.dropWhile_cons_of_pos space]
      rw [shape, lexemes_eq_cons scanned]
      rfl
    · rw [List.takeWhile_cons_of_neg space, List.dropWhile_cons_of_neg space]
      rfl

theorem shape_spaces {spaces : List Char} (blank : ∀ c ∈ spaces, isSpace c) (position : Position)
    (current : Option Phrase) (rest : List Char) :
    shape position current (spaces ++ rest) = shape (position.advance spaces) current rest := by
  rw [shape_blanks position, shape_blanks (position.advance spaces),
    List.takeWhile_append_of_pos blank, List.dropWhile_append_of_pos blank,
    Position.advance_append]

theorem shape_comment (position : Position) (current : Option Phrase) (rest : List Char) :
    shape position current ('#' :: rest) =
      shape (position.advance ('#' :: rest.takeWhile (!isEnding ·))) current
        (rest.dropWhile (!isEnding ·)) := by
  have scanned : scan? ('#' :: rest) =
      some (.comment (rest.takeWhile (!isEnding ·)), rest.dropWhile (!isEnding ·)) := rfl
  rw [shape, lexemes_eq_cons scanned]
  rfl

/-- Layout counts for nothing but the place behind it. -/
theorem shape_skip (input : List Char) :
    ∃ skipped, input = skipped ++ skipLayout input ∧
      ∀ position current, shape position current input =
        shape (position.advance skipped) current (skipLayout input) := by
  unfold skipLayout
  split
  · rename_i rest marked
    refine ⟨input.takeWhile isSpace ++ '#' :: rest.takeWhile (!isEnding ·), ?_, ?_⟩
    · rw [List.append_assoc, List.cons_append, List.takeWhile_append_dropWhile, ← marked,
        List.takeWhile_append_dropWhile]
    · intro position current
      rw [shape_blanks, marked, shape_comment, Position.advance_append]
  · exact ⟨input.takeWhile isSpace, List.takeWhile_append_dropWhile.symm,
      fun position current => shape_blanks position current input⟩

/-- What opens a line ending opens no layout. -/
theorem opens_newline {c : Char} {rest : List Char} {found : List Char × List Char}
    (scanned : scanNewline? (c :: rest) = some found) :
    opensLayout c = false ∧ isEnding c := by
  have ending : c = '\r' ∨ c = '\n' := by
    unfold scanNewline? at scanned
    split at scanned <;> simp_all
  rcases ending with rfl | rfl <;> decide

theorem shape_newline {input ending rest : List Char}
    (scanned : scanNewline? input = some (ending, rest)) (position : Position)
    (current : Option Phrase) :
    shape position current input =
      (shape (position.advance ending) none rest).map (current.toList ++ ·) := by
  have lexeme : scan? input = some (.newline ending, rest) := by
    cases input with
    | nil => cases scanned
    | cons c others =>
      obtain ⟨notLayout, isEnd⟩ := opens_newline scanned
      simp only [opensLayout, Bool.or_eq_false_iff, decide_eq_false_iff_not] at notLayout
      simp [scan?, notLayout, isEnd, scanned]
  rw [shape, lexemes_eq_cons lexeme]
  rfl

/-- What opens a token opens neither layout nor a line ending. -/
theorem opens_token {c : Char} {rest : List Char} {found : Token × List Char}
    (scanned : scanToken? (c :: rest) = some found) :
    opensLayout c = false ∧ isEnding c = false := by
  have blank : ∀ mark ∈ [' ', '\t', '#', '\n', '\r'], scanToken? (mark :: rest) = none := by
    intro mark member
    have classes : isWordStart mark = false ∧ mark ≠ '"' ∧ mark ≠ '-' ∧ mark.isDigit = false := by
      simp only [List.mem_cons, List.not_mem_nil, or_false] at member
      rcases member with rfl | rfl | rfl | rfl | rfl <;> decide
    simp [scanToken?, classes, scan?_eq_none]
  have other : c ∉ [' ', '\t', '#', '\n', '\r'] := by
    intro member
    cases scanned.symm.trans (blank c member)
  grind [opensLayout, isSpace, isEnding]

theorem scan?_eq_token {input rest : List Char} {token : Token}
    (scanned : scanToken? input = some (token, rest)) :
    scan? input = some (.token token, rest) := by
  cases input with
  | nil => cases scanned
  | cons c others =>
    obtain ⟨notLayout, notEnding⟩ := opens_token scanned
    simp only [opensLayout, Bool.or_eq_false_iff, decide_eq_false_iff_not] at notLayout
    simp [scan?, notLayout, notEnding, scanned]

theorem shape_keyword {input letters rest : List Char}
    (scanned : scanToken? input = some (.word letters, rest)) (position : Position) :
    shape position none input =
      shape (position.advance letters) (some ⟨position, letters, []⟩) rest := by
  rw [shape, lexemes_eq_cons (scan?_eq_token scanned)]
  rfl

theorem shape_argument {input rest : List Char} {token : Token}
    (scanned : scanToken? input = some (token, rest)) (position : Position) (phrase : Phrase) :
    shape position (some phrase) input =
      shape (position.advance token.chars)
        (some { phrase with arguments := phrase.arguments ++ [token] }) rest := by
  rw [shape, lexemes_eq_cons (scan?_eq_token scanned)]
  rfl

/-- A line cannot open with a token other than a word. -/
theorem shape_misplaced {input rest : List Char} {token : Token}
    (scanned : scanToken? input = some (token, rest)) (other : ∀ letters, token ≠ .word letters)
    (position : Position) : shape position none input = .error (.of position none) := by
  rw [shape, lexemes_eq_cons (scan?_eq_token scanned)]
  cases token with
  | word letters => exact absurd rfl (other letters)
  | number numeral => rfl
  | quoted body => rfl

theorem shape_nil (position : Position) (current : Option Phrase) :
    shape position current [] = .ok current.toList := by
  rw [shape, lexemes_eq_nil rfl]
  rfl

/-- A text is refused where nothing of it can be read. -/
theorem shape_unreadable {input : List Char} (unfinished : input ≠ [])
    (bare : skipLayout input = input) (notNewline : scanNewline? input = none)
    (notToken : scanToken? input = none) (position : Position) (current : Option Phrase) :
    shape position current input = .error (.of position current) := by
  obtain ⟨c, rest, rfl⟩ := List.exists_cons_of_ne_nil unfinished
  have notLayout : opensLayout c = false := by
    apply @opensLayout_head_skipLayout (c :: rest)
    rw [bare]
    rfl
  simp only [opensLayout, Bool.or_eq_false_iff, decide_eq_false_iff_not] at notLayout
  have unread : scan? (c :: rest) = none := by
    simp [scan?, notLayout, notNewline, notToken]
  rw [shape, lexemes_eq_nil unread]
  rfl

/-! ### Statements -/

/-- The arguments of a line are taken one after the other, each with the layout before
it. Layout behind the last one is left. -/
theorem matches_arguments (input : List Char) :
    ∃ tokens rest,
      Matches scripts source (.repeated (.sequence Rule.layout (.rule .arg))) input
        (some (tokens.map Token.tree, rest)) ∧
      scanToken? (skipLayout rest) = none ∧
      ∀ position phrase, ∃ behind, shape position (some phrase) input =
        shape behind (some { phrase with arguments := phrase.arguments ++ tokens })
          (skipLayout rest) := by
  induction size : input.length using Nat.strongRecOn generalizing input with
  | ind size inductionHypothesis =>
    subst size
    obtain ⟨skipped, split, skips⟩ := shape_skip input
    have argument := @matches_arg source (skipLayout input)
    cases scanned : scanToken? (skipLayout input) with
    | none =>
      rw [scanned] at argument
      refine ⟨[], input, .repeatedNone ((matches_layout input).sequenceFailsLater argument),
        scanned, fun position phrase => ⟨position.advance skipped, ?_⟩⟩
      rw [skips, List.append_nil]
    | some found =>
      obtain ⟨token, after⟩ := found
      rw [scanned] at argument
      obtain ⟨tokenSplit, taken⟩ := chars_scanToken? scanned
      have shorter : after.length < input.length := by
        have positive := List.length_pos_iff.2 taken
        have lengths := congrArg List.length split
        rw [tokenSplit] at lengths
        simp only [List.length_append] at lengths
        omega
      obtain ⟨tokens, rest, others, ended, shaped⟩ :=
        inductionHypothesis after.length shorter after rfl
      refine ⟨token :: tokens, rest, ((matches_layout input).sequence argument).repeated others,
        ended, fun position phrase => ?_⟩
      obtain ⟨behind, equal⟩ := shaped ((position.advance skipped).advance token.chars)
        { phrase with arguments := phrase.arguments ++ [token] }
      refine ⟨behind, ?_⟩
      rw [skips, shape_argument scanned, equal]
      simp only [List.append_assoc, List.singleton_append]

/-- The tree of a statement. -/
def statementTree (text letters : List Char) (tokens : List Token) : Tree Rule :=
  .node .statement text (Token.tree (.word letters) :: tokens.map Token.tree)

/-- A statement is a word and the arguments behind it. -/
theorem matches_statement {input letters rest : List Char}
    (keyword : scanToken? input = some (.word letters, rest)) :
    ∃ text tokens after,
      Matches scripts source (.rule .statement) input
        (some ([statementTree text letters tokens], after)) ∧
      scanToken? (skipLayout after) = none ∧
      ∀ position, ∃ behind, shape position none input =
        shape behind (some ⟨position, letters, tokens⟩) (skipLayout after) := by
  have ident := @matches_token source .ident (by decide) input
  rw [scanAs, keyword] at ident
  have argument := @matches_arg source (skipLayout rest)
  obtain ⟨skipped, split, skips⟩ := shape_skip rest
  cases scanned : scanToken? (skipLayout rest) with
  | none =>
    rw [scanned] at argument
    have body : Matches scripts source (scripts.body .statement) input
        (some ([Token.tree (.word letters)], skipLayout rest)) :=
      ident.sequence ((matches_layout rest).sequence (.optionalNone argument.sequenceFails))
    obtain ⟨text, equal⟩ := body.suffix
    refine ⟨text, [], skipLayout rest, matches_rule equal.symm body, ?_, fun position => ?_⟩
    · rwa [skipLayout_skipLayout]
    · rw [shape_keyword keyword, skips, skipLayout_skipLayout]
      exact ⟨_, rfl⟩
  | some found =>
    obtain ⟨token, after⟩ := found
    rw [scanned] at argument
    obtain ⟨tokens, unread, others, ended, shaped⟩ := @matches_arguments source after
    have body : Matches scripts source (scripts.body .statement) input
        (some (Token.tree (.word letters) :: token.tree :: tokens.map Token.tree, unread)) :=
      ident.sequence ((matches_layout rest).sequence (argument.sequence others).optional)
    obtain ⟨text, equal⟩ := body.suffix
    refine ⟨text, token :: tokens, unread, matches_rule equal.symm body, ended,
      fun position => ?_⟩
    rw [shape_keyword keyword, skips, shape_argument scanned]
    exact shaped _ _

/-! ### Lines -/

/-- The rest of a line behind its layout: an optional statement, and how the line ends. -/
def line (ending : Rule) : Expr Rule :=
  .sequence (.optional (.rule .statement)) (.sequence Rule.layout (.rule ending))

/-- A line without or with a statement is read up to what ends it. A token is left only on
a line without a statement, and it is not a word. -/
theorem matches_optional_statement (input : List Char) :
    ∃ trees rest,
      Matches scripts source (.optional (.rule .statement)) (skipLayout input)
        (some (trees, rest)) ∧
      ∀ position, ∃ behind current,
        shape position none input = shape behind current (skipLayout rest) ∧
        trees.filterMap Tree.parts? = current.toList.map Phrase.trees ∧
        ∀ token after, scanToken? (skipLayout rest) = some (token, after) →
          current = none ∧ ∀ letters, token ≠ .word letters := by
  obtain ⟨skipped, -, skips⟩ := shape_skip input
  by_cases isWord : ∃ letters rest, scanToken? (skipLayout input) = some (.word letters, rest)
  · obtain ⟨letters, rest, keyword⟩ := isWord
    obtain ⟨text, tokens, after, found, ended, shaped⟩ := @matches_statement source _ _ _ keyword
    refine ⟨_, after, found.optional, fun position => ?_⟩
    obtain ⟨behind, equal⟩ := shaped (position.advance skipped)
    refine ⟨behind, _, (skips position none).trans equal, ?_, ?_⟩
    · rfl
    · intro token others scanned
      cases ended.symm.trans scanned
  · have fails : Matches scripts source (.rule .ident) (skipLayout input) none := by
      refine matches_token_none (by decide) fun token rest scanned named => isWord ?_
      cases token with
      | word letters => exact ⟨letters, rest, scanned⟩
      | number numeral => cases named
      | quoted body => cases named
    refine ⟨[], skipLayout input, .optionalNone (.ruleFails fails.sequenceFails),
      fun position => ⟨position.advance skipped, none, ?_, rfl, ?_⟩⟩
    · rw [skips, skipLayout_skipLayout]
    · rw [skipLayout_skipLayout]
      intro token after scanned
      refine ⟨rfl, ?_⟩
      rintro letters rfl
      exact isWord ⟨letters, after, scanned⟩

/-- What an expression comes to that is to match the whole input, against what is read. -/
def Reads (source : List Char) (expression : Expr Rule) (input : List Char)
    (earlier : List (Tree Rule)) : Except Refusal (List Phrase) → Prop
  | .ok found => ∃ trees, Matches scripts source expression input (some (trees, [])) ∧
      (earlier ++ trees).filterMap Tree.parts? = found.map Phrase.trees
  | .error _ => Matches scripts source expression input none

theorem Reads.after {expression : Expr Rule} {input : List Char}
    {earlier trees : List (Tree Rule)} {current : Option Phrase}
    {result : Except Refusal (List Phrase)}
    (parts : trees.filterMap Tree.parts? = current.toList.map Phrase.trees)
    (reads : Reads source expression input earlier result) :
    Reads source expression input (trees ++ earlier) (result.map (current.toList ++ ·)) := by
  cases result with
  | ok found =>
    obtain ⟨others, whole, equal⟩ := reads
    refine ⟨others, whole, ?_⟩
    rw [List.append_assoc, List.filterMap_append, equal, parts, List.map_append]
  | error refusal => exact reads

/-- A line ends with a line ending and there is more to read, or it is the last one. -/
theorem line_cases (position : Position) (input : List Char) :
    (∃ trees rest behind, ∃ current : Option Phrase,
      Matches scripts source (line .newline) (skipLayout input) (some (trees, rest)) ∧
      rest.length < input.length ∧
      trees.filterMap Tree.parts? = current.toList.map Phrase.trees ∧
      shape position none input = (shape behind none rest).map (current.toList ++ ·)) ∨
    Matches scripts source (line .newline) (skipLayout input) none ∧
      Reads source (line .endOfInput) (skipLayout input) [] (shape position none input) := by
  obtain ⟨trees, middle, found, shaped⟩ := @matches_optional_statement source input
  obtain ⟨behind, current, equal, parts, misplaced⟩ := shaped position
  have layout := @matches_layout source middle
  have newline := @matches_newline source (skipLayout middle)
  cases scanned : scanNewline? (skipLayout middle) with
  | some ended =>
    obtain ⟨ending, rest⟩ := ended
    rw [scanned] at newline
    obtain ⟨split, taken⟩ := chars_scanNewline? scanned
    refine .inl ⟨_, rest, behind.advance ending, current,
      found.sequence (layout.sequence newline), ?_, ?_, ?_⟩
    · have positive := List.length_pos_iff.2 taken
      have bound : (ending ++ rest).length ≤ input.length := split ▸
        ((skipLayout_suffix middle).trans (found.suffix.trans (skipLayout_suffix input))).length_le
      rw [List.length_append] at bound
      omega
    · simpa using parts
    · rw [equal, shape_newline scanned]
  | none =>
    rw [scanned] at newline
    refine .inr ⟨found.sequenceFailsLater (layout.sequenceFailsLater newline), ?_⟩
    rw [equal]
    by_cases finished : skipLayout middle = []
    · rw [finished] at layout ⊢
      have last : Matches scripts source (.rule .endOfInput) []
          (some ([.node .endOfInput [] []], [])) :=
        matches_rule rfl .endOfInput
      rw [shape_nil]
      refine ⟨_, found.sequence (layout.sequence last), ?_⟩
      have unstated : [Tree.node .endOfInput [] []].filterMap Tree.parts? = [] := rfl
      simpa [unstated] using parts
    · have refused : ∃ refusal, shape behind current (skipLayout middle) = .error refusal := by
        cases unread : scanToken? (skipLayout middle) with
        | none =>
          exact ⟨_, shape_unreadable finished (skipLayout_skipLayout middle) scanned unread _ _⟩
        | some token =>
          obtain ⟨rfl, notWord⟩ := misplaced _ _ unread
          exact ⟨_, shape_misplaced unread notWord _⟩
      obtain ⟨refusal, refused⟩ := refused
      rw [refused]
      obtain ⟨c, rest, unfinished⟩ := List.exists_cons_of_ne_nil finished
      rw [unfinished] at layout
      exact found.sequenceFailsLater (layout.sequenceFailsLater (.ruleFails .endFails))

/-- Lines that end with a line ending, each with the layout before it. -/
def lines : Expr Rule :=
  .repeated (.sequence Rule.layout (line .newline))

/-- The last line, with the layout before it. -/
def lastLine : Expr Rule :=
  .sequence Rule.layout (line .endOfInput)

/-- Layout is skipped before the last line. -/
theorem Reads.lastLine {input : List Char} {result : Except Refusal (List Phrase)}
    (reads : Reads source (line .endOfInput) (skipLayout input) [] result) :
    Reads source lastLine input [] result := by
  cases result with
  | ok found =>
    obtain ⟨trees, whole, equal⟩ := reads
    exact ⟨trees, (matches_layout input).sequence whole, equal⟩
  | error refusal => exact (matches_layout input).sequenceFailsLater reads

/-- Lines are read one after the other. -/
theorem matches_lines (position : Position) (input : List Char) :
    ∃ trees rest, Matches scripts source lines input (some (trees, rest)) ∧
      Reads source lastLine rest trees (shape position none input) := by
  induction size : input.length using Nat.strongRecOn generalizing position input with
  | ind size inductionHypothesis =>
    subst size
    rcases @line_cases source position input with
      ⟨trees, middle, behind, current, item, shorter, parts, equal⟩ | ⟨fails, last⟩
    · obtain ⟨others, rest, more, reads⟩ :=
        inductionHypothesis middle.length shorter behind middle rfl
      refine ⟨_, rest, ((matches_layout input).sequence item).repeated more, ?_⟩
      rw [equal]
      exact reads.after parts
    · exact ⟨[], input, .repeatedNone ((matches_layout input).sequenceFailsLater fails),
        last.lastLine⟩

/-- The lines of a source text, where layout before the first line is skipped first. -/
theorem matches_body (position : Position) (input : List Char) :
    ∃ trees rest,
      Matches scripts source (.optional (.sequence (line .newline) lines)) (skipLayout input)
        (some (trees, rest)) ∧
      Reads source lastLine rest trees (shape position none input) := by
  rcases @line_cases source position input with
    ⟨trees, middle, behind, current, item, -, parts, equal⟩ | ⟨fails, last⟩
  · obtain ⟨others, rest, more, reads⟩ := @matches_lines source behind middle
    refine ⟨_, rest, (item.sequence more).optional, ?_⟩
    rw [equal]
    exact reads.after parts
  · rw [← skipLayout_skipLayout] at last
    exact ⟨[], skipLayout input, .optionalNone fails.sequenceFails, last.lastLine⟩

/-- The grammar matches a source text from end to end with the statements that are read
off it, or it fails and the text is refused. -/
theorem phrases_outcome (source : List Char) :
    match phrases source with
    | .ok found => ∃ tree, Matches scripts source (.rule .script) source (some ([tree], [])) ∧
        tree.children.filterMap Tree.parts? = found.map Phrase.trees
    | .error _ => Matches scripts source (.rule .script) source none := by
  obtain ⟨trees, rest, first, reads⟩ := @matches_body source .start source
  rw [phrases_eq_shape]
  cases result : shape .start none source with
  | ok found =>
    rw [result] at reads
    obtain ⟨others, last, equal⟩ := reads
    have body : Matches scripts source (scripts.body .script) source
        (some ([] ++ ([] ++ (trees ++ others)), [])) :=
      .sequence .startOfInput ((matches_layout source).sequence (first.sequence last))
    exact ⟨_, matches_rule (List.append_nil source).symm body, equal⟩
  | error refusal =>
    rw [result] at reads
    have body : Matches scripts source (scripts.body .script) source none :=
      .sequenceFailsLater .startOfInput
        ((matches_layout source).sequenceFailsLater (first.sequenceFailsLater reads))
    exact .ruleFails body

/-- The trees inside the statements tell their tokens. -/
theorem statements_eq_of_parts {tree : Tree Rule} {found : List Phrase}
    (parts : tree.children.filterMap Tree.parts? = found.map Phrase.trees) :
    tree.statements = found.map phraseLabels := by
  have labels (child : Tree Rule) : child.statement? = child.parts?.map (List.map Tree.label) := by
    obtain ⟨rule, text, children⟩ := child
    cases rule <;> rfl
  have tokens (phrase : Phrase) : phraseLabels phrase = phrase.trees.map Tree.label := by
    simp [phraseLabels, Phrase.trees, tokenLabel]
  obtain ⟨rule, text, children⟩ := tree
  calc children.filterMap Tree.statement?
    _ = (children.filterMap Tree.parts?).map (List.map Tree.label) := by
      rw [List.map_filterMap, funext labels]
    _ = (found.map Phrase.trees).map (List.map Tree.label) := by
      rw [← parts, Tree.children]
    _ = found.map phraseLabels := by
      rw [List.map_map]
      exact List.map_congr_left fun phrase _ => (tokens phrase).symm

end Stackline.Grammar
