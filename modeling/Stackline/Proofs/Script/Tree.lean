import Mathlib
import Stackline.Proofs.Number.Acceptor
import Stackline.Proofs.Script.Fault

/-!
# The statements of a match can be read

Where the grammar matches, the tree of a statement has a keyword and behind it arguments
only. A number among them is one to a reader of real numbers, and the escapes of a quoted
text are undone whole. So whoever reads a statement off its tree meets nothing that is
missing or out of place (`isStatement_of_matched`). The trees that reading starts from are
those of the match (`mapM_ofTrees_of_match`).
-/

namespace Stackline.Grammar

open Stackline.Script
open Stackline.Script.Lexeme (scanToken? wellFormed_scanToken?)
open Stackline.Number (isRealText isRealText_chars)

section Rulebook

variable {ρ : Type} {grammar : Rulebook ρ} {source : List Char}

/-- A rule matches what its body does. -/
theorem Matches.body {name : ρ} {input rest : List Char} {trees : List (Tree ρ)}
    (found : Matches grammar source (.rule name) input (some (trees, rest))) :
    ∃ text children, trees = (grammar.mode name).trees name text children ∧
      Matches grammar source (grammar.body name) input (some (children, rest)) := by
  generalize equal : some (trees, rest) = result at found
  cases found with
  | rule split body =>
    cases equal
    exact ⟨_, _, rfl, body⟩
  | ruleFails _ => cases equal

/-- A tree is the match of its rule, somewhere in the source. -/
def Tree.Matched (grammar : Rulebook ρ) (source : List Char) (tree : Tree ρ) : Prop :=
  ∃ input rest, Matches grammar source (.rule tree.label.1) input (some ([tree], rest))

theorem Matches.matched {expression : Expr ρ} {input rest : List Char} {trees : List (Tree ρ)}
    (found : Matches grammar source expression input (some (trees, rest))) :
    ∀ tree ∈ trees, tree.Matched grammar source := by
  generalize equal : some (trees, rest) = result at found
  induction found generalizing trees rest with
  | one | literal | startOfInput | endOfInput | optionalNone | repeatedNone | forbidden =>
    cases equal
    simp
  | @rule name input text rest children split body inductionHypothesis =>
    cases equal
    have found := Matches.rule split body
    cases mode : grammar.mode name with
    | silent => exact inductionHypothesis rfl
    | normal | atomic =>
      rw [mode] at found
      rintro tree member
      cases List.mem_singleton.1 member
      exact ⟨input, rest, found⟩
  | sequence _ _ leftHypothesis rightHypothesis
  | repeated _ _ leftHypothesis rightHypothesis =>
    cases equal
    intro tree member
    rcases List.mem_append.1 member with here | there
    · exact leftHypothesis rfl tree here
    · exact rightHypothesis rfl tree there
  | choice _ inductionHypothesis | optional _ inductionHypothesis
  | repeatedOnce _ inductionHypothesis => exact inductionHypothesis equal
  | choiceOther _ _ _ inductionHypothesis => exact inductionHypothesis equal
  | oneFails | literalFails | startFails | endFails | ruleFails | sequenceFails
  | sequenceFailsLater | forbiddenFails => cases equal

/-- The trees inside a tree are matches of their rules too. -/
theorem Matches.matched_children {name : ρ} {input rest : List Char} {tree : Tree ρ}
    (normal : grammar.mode name = .normal)
    (found : Matches grammar source (.rule name) input (some ([tree], rest))) :
    ∀ child ∈ tree.children, child.Matched grammar source := by
  obtain ⟨text, children, equal, body⟩ := found.body
  rw [normal] at equal
  cases equal
  exact body.matched

end Rulebook

variable {source : List Char}

/-- The tree of an argument that can be read. -/
inductive IsArgument : Tree Rule → Prop where
  | word {letters : List Char} : IsArgument (.node .ident letters [])
  | number {text : List Char} (real : isRealText text) : IsArgument (.node .number text [])
  | quoted {body : List Char} (isBody : IsBody body) (undone : Undone body (unescape body)) :
      IsArgument (.node .string ('"' :: body ++ ['"']) [.node .text body []])

/-- The tree of a statement that can be read: a keyword, and arguments. -/
inductive IsStatement : Tree Rule → Prop where
  | mk {text keyword : List Char} {arguments : List (Tree Rule)}
      (readable : ∀ argument ∈ arguments, IsArgument argument) :
      IsStatement (.node .statement text (.node .ident keyword [] :: arguments))

theorem isArgument_tree {token : Token} (wellFormed : token.WellFormed) :
    IsArgument token.tree := by
  cases token with
  | word letters => exact .word
  | number numeral => exact .number (isRealText_chars wellFormed)
  | quoted body => exact .quoted wellFormed (IsBody.undone wellFormed)

/-- The tree of a token can be read as an argument. -/
theorem isArgument_of_matched {tree : Tree Rule} (isToken : tree.label.1 ∈ tokenRules)
    (matched : tree.Matched scripts source) : IsArgument tree := by
  obtain ⟨input, rest, found⟩ := matched
  obtain ⟨token, scanned, named⟩ := scanToken?_of_matches isToken found
  have again := @matches_token source _ isToken input
  simp only [scanAs, scanned, named, if_true] at again
  cases again.deterministic found
  exact isArgument_tree (wellFormed_scanToken? scanned)

/-- A statement opens with a word. -/
theorem scanToken?_of_matches_statement {input rest : List Char} {trees : List (Tree Rule)}
    (found : Matches scripts source (.rule .statement) input (some (trees, rest))) :
    ∃ letters after, scanToken? input = some (.word letters, after) := by
  obtain ⟨text, children, -, body⟩ := found.body
  have parts : Matches scripts source (.sequence (.rule .ident) _) input (some (children, rest)) :=
    body
  cases parts with
  | @sequence _ _ _ after _ trees _ ident _ =>
    obtain ⟨token, scanned, named⟩ := scanToken?_of_matches (by decide) ident
    cases token with
    | word letters => exact ⟨letters, after, scanned⟩
    | number numeral => cases named
    | quoted body => cases named

/-- The tree of a statement can be read. -/
theorem isStatement_of_matched {tree : Tree Rule} (isStatement : tree.label.1 = .statement)
    (matched : tree.Matched scripts source) : IsStatement tree := by
  obtain ⟨input, rest, found⟩ := matched
  rw [isStatement] at found
  obtain ⟨letters, after, keyword⟩ := scanToken?_of_matches_statement found
  obtain ⟨text, tokens, unread, again, -, -⟩ := @matches_statement source _ _ _ keyword
  have children := found.matched_children rfl
  cases again.deterministic found
  refine .mk fun argument member => ?_
  refine isArgument_of_matched ?_ (children argument (.tail _ member))
  obtain ⟨token, -, rfl⟩ := List.mem_map.1 member
  rw [label_tree]
  exact mem_tokenRules (mem_nextTokens_true token)

/-- The statements of a script are among its children. -/
theorem exists_child {tree : Tree Rule} {labels : List (Rule × List Char)}
    (member : labels ∈ tree.statements) :
    ∃ child ∈ tree.children, child.label.1 = .statement ∧
      child.children.map Tree.label = labels := by
  obtain ⟨rule, text, children⟩ := tree
  obtain ⟨child, inside, found⟩ := List.mem_filterMap.1 member
  refine ⟨child, inside, ?_⟩
  unfold Tree.statement? at found
  split at found <;> cases found
  exact ⟨rfl, rfl⟩

/-! ### Reading off a match -/

theorem mapM_operation (found : List Phrase) :
    found.mapM Phrase.operation =
      ((found.mapM Phrase.statement).map (List.map Statement.operation)).mapError
        ParseError.problem := by
  induction found with
  | nil => rfl
  | cons phrase rest inductionHypothesis =>
    rw [List.mapM_cons, List.mapM_cons, inductionHypothesis, Phrase.statement]
    cases phrase.operation with
    | error problem => rfl
    | ok operation => cases rest.mapM Phrase.statement <;> rfl

section Reading

variable {trees : List (Tree Rule)} {rest : List Char}
  (accepted : Matches scripts source (.rule .script) source (some (trees, rest)))

include accepted

/-- The statements of a match are the phrases of its source. -/
theorem exists_phrases :
    ∃ found, phrases source = .ok found ∧
      ∀ tree ∈ trees, tree.children.filterMap Tree.parts? = found.map Phrase.trees := by
  have outcome := phrases_outcome source
  cases read : phrases source with
  | error refusal =>
    rw [read] at outcome
    cases outcome.deterministic accepted
  | ok found =>
    rw [read] at outcome
    obtain ⟨tree, again, parts⟩ := outcome
    cases again.deterministic accepted
    exact ⟨found, rfl, by simpa using parts⟩

/-- Where the grammar matches a source, its operations are read off the trees of the
statements, one after the other, and so is the problem of a statement that has none. -/
theorem mapM_ofTrees_of_match :
    ∀ tree ∈ trees, (tree.children.filterMap Tree.parts?).mapM Operation.ofTrees =
      ((parseChars source).map (List.map Statement.operation)).mapError ParseError.problem := by
  intro tree member
  obtain ⟨found, read, parts⟩ := exists_phrases accepted
  rw [parts tree member, List.mapM_map, parseChars, read]
  exact mapM_operation found

end Reading

end Stackline.Grammar
