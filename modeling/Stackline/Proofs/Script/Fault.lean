import Mathlib
import Stackline.Proofs.Script.Pushed

/-!
# What is wrong with a statement

A statement is faulty if one of its quoted texts has an unknown escape, or else if its
keyword is unknown, or else if its arguments are not of a form that its keyword takes.
`Faulty` says so of the rules and texts of its tokens, and `Phrase.operation_eq_error_iff`
that these are all the problems of a phrase. There is no other: its trees begin with the
keyword and go on with tokens, a number is read from end to end (`Operation.pushed_chars`),
and the body of a quoted text is made of whole escapes (`IsBody.undone`).
-/

namespace Stackline.Script

open Stackline.Grammar

/-! ### Escapes -/

/-- The characters that can be escaped. -/
def knownEscapes : List Char :=
  ['n', 't', '"', '\\']

/-- A body whose first unknown escape is that of a character. -/
inductive Misescaped : List Char → Char → Prop where
  | mk {text known rest : List Char} {escaped : Char} (escapes : Escaped text known)
      (unknown : escaped ∉ knownEscapes) : Misescaped (known ++ '\\' :: escaped :: rest) escaped

/-- What comes of undoing the escapes of a body, one character or one pair after the other. -/
inductive Undone : List Char → Except Problem (List Char) → Prop where
  | whole {text body : List Char} (escapes : Escaped text body) : Undone body (.ok text)
  | unknown {body : List Char} {escaped : Char} (misescaped : Misescaped body escaped) :
      Undone body (.error (.unknownEscape escaped))

theorem unescapeChar?_eq_none_iff {escaped : Char} :
    unescapeChar? escaped = none ↔ escaped ∉ knownEscapes := by
  unfold unescapeChar?
  split <;> simp_all [knownEscapes]

theorem Misescaped.unescape_eq {body : List Char} {escaped : Char}
    (misescaped : Misescaped body escaped) :
    unescape body = .error (.unknownEscape escaped) := by
  obtain ⟨escapes, unknown⟩ := misescaped
  induction escapes with
  | nil => simp [unescape, unescapeChar?_eq_none_iff.2 unknown]
  | plain _ _ notBackslash _ inductionHypothesis =>
    simp [unescape, notBackslash, inductionHypothesis, Except.map]
  | _ _ inductionHypothesis => simp [unescape, unescapeChar?, inductionHypothesis, Except.map]

/-- One more character in front of a body, or one more pair. -/
theorem Undone.cons {c : Char} {unit body : List Char} {result : Except Problem (List Char)}
    (grows : ∀ {text rest}, Escaped text rest → Escaped (c :: text) (unit ++ rest))
    (undone : Undone body result) : Undone (unit ++ body) (result.map (c :: ·)) := by
  cases undone with
  | whole escapes => exact .whole (grows escapes)
  | unknown misescaped =>
    obtain ⟨escapes, unknown⟩ := misescaped
    rw [← List.append_assoc]
    exact .unknown (.mk (grows escapes) unknown)

theorem escaped_pair {escaped c : Char} (found : unescapeChar? escaped = some c)
    {text rest : List Char} (escapes : Escaped text rest) :
    Escaped (c :: text) (['\\', escaped] ++ rest) := by
  unfold unescapeChar? at found
  split at found <;> cases found
  · exact .newline escapes
  · exact .tab escapes
  · exact .quote escapes
  · exact .backslash escapes

/-- The body of a quoted text is undone in whole escapes: none is cut off at its end. -/
theorem IsBody.undone {body : List Char} (isBody : IsBody body) :
    Undone body (unescape body) := by
  induction isBody with
  | nil => exact .whole .nil
  | @plain c rest notQuote notEscape notEnding _ inductionHypothesis =>
    have notNewline : c ≠ '\n' := by
      rintro rfl
      cases notEnding
    have step : unescape (c :: rest) = (unescape rest).map (c :: ·) := by
      simp [unescape, notEscape]
    rw [step]
    exact @Undone.cons c [c] _ _ (.plain notNewline notQuote notEscape) inductionHypothesis
  | @escape escaped rest _ _ inductionHypothesis =>
    rw [unescape]
    cases found : unescapeChar? escaped with
    | some c => exact .cons (escaped_pair found) inductionHypothesis
    | none => exact .unknown (.mk .nil (unescapeChar?_eq_none_iff.1 found))

/-! ### Keywords and the forms of their arguments -/

/-- The forms of arguments that a keyword takes, by the rules of their tokens. -/
def Keyword.forms : Keyword → List (List Rule)
  | .declare => [[.ident, .ident]]
  | .read => [[.ident]]
  | .write => [[.string], [.ident]]
  | .print => [[]]
  | .push => [[.number]]
  | .load => [[.ident]]
  | .store => [[.ident]]
  | .arithmetic _ => [[]]

/-- The rule of the token that an argument is read from. -/
def Argument.rule : Argument → Rule
  | .word _ => .ident
  | .number _ => .number
  | .text _ => .string

/-- A keyword forms an operation from arguments of its forms, and is misused otherwise. No
number is refused. -/
theorem Keyword.operation_eq_error_iff {keyword : Keyword} {arguments : List Argument}
    (wellFormed : ∀ argument ∈ arguments, argument.WellFormed) {problem : Problem} :
    keyword.operation arguments = .error problem ↔
      problem = .usage keyword ∧ arguments.map Argument.rule ∉ keyword.forms := by
  -- No form has more than two arguments.
  rcases arguments with _ | ⟨first, _ | ⟨second, _ | ⟨third, others⟩⟩⟩
  · cases keyword <;> simp [Keyword.operation, Keyword.forms, @eq_comm _ problem]
  · cases first with
    | number literal =>
      obtain ⟨numeral, isNumeral, rfl⟩ := wellFormed _ (.head _)
      cases keyword <;>
        simp [Keyword.operation, Keyword.forms, Argument.rule, Operation.pushed_chars isNumeral,
          @eq_comm _ problem]
    | word _ | text _ =>
      cases keyword <;> simp [Keyword.operation, Keyword.forms, Argument.rule, @eq_comm _ problem]
  · cases keyword <;> cases first <;> cases second <;>
      simp [Keyword.operation, Keyword.forms, Argument.rule, @eq_comm _ problem]
  · cases keyword <;> simp [Keyword.operation, Keyword.forms, @eq_comm _ problem]

theorem Keyword.named?_eq_some_iff {word : String} {keyword : Keyword} :
    Keyword.named? word = some keyword ↔ keyword.name = word := by
  constructor
  · intro found
    simpa using List.find?_some found
  · rintro rfl
    exact keyword.named?_name

theorem Keyword.named?_eq_none_iff {word : String} :
    Keyword.named? word = none ↔ ∀ known : Keyword, known.name ≠ word := by
  simp only [Option.eq_none_iff_forall_ne_some, ne_eq, Keyword.named?_eq_some_iff]

/-! ### Faults -/

/-- The quoted texts among some tokens have known escapes only. -/
def Clean (tokens : List (Rule × List Char)) : Prop :=
  ∀ body, (.string, '"' :: body ++ ['"']) ∈ tokens → ∃ text, Escaped text body

/-- What is wrong with a statement, by the rules and texts of its keyword and arguments. -/
inductive Faulty : List (Rule × List Char) → Problem → Prop where
  | unknownEscape {keyword body : List Char} {arguments earlier later : List (Rule × List Char)}
      {escaped : Char} (split : arguments = earlier ++ (.string, '"' :: body ++ ['"']) :: later)
      (clean : Clean earlier) (misescaped : Misescaped body escaped) :
      Faulty ((.ident, keyword) :: arguments) (.unknownEscape escaped)
  | unknownOperation {keyword : List Char} {arguments : List (Rule × List Char)}
      (clean : Clean arguments) (unknown : ∀ known : Keyword, known.name ≠ String.ofList keyword) :
      Faulty ((.ident, keyword) :: arguments) (.unknownOperation (String.ofList keyword))
  | usage {keyword : List Char} {arguments : List (Rule × List Char)} {known : Keyword}
      (clean : Clean arguments) (named : known.name = String.ofList keyword)
      (misfit : arguments.map Prod.fst ∉ known.forms) :
      Faulty ((.ident, keyword) :: arguments) (.usage known)

theorem eq_quoted_of_label {token : Token} {body : List Char}
    (labelled : tokenLabel token = (.string, '"' :: body ++ ['"'])) : token = .quoted body := by
  cases token with
  | word letters => cases labelled
  | number numeral => cases labelled
  | quoted other => simpa [tokenLabel] using labelled

theorem clean_map_tokenLabel {tokens : List Token} :
    Clean (tokens.map tokenLabel) ↔ ∀ body, .quoted body ∈ tokens → ∃ text, Escaped text body := by
  constructor
  · intro clean body member
    exact clean body (List.mem_map_of_mem member)
  · intro escapes body member
    obtain ⟨token, found, labelled⟩ := List.mem_map.1 member
    exact escapes body (eq_quoted_of_label labelled ▸ found)

theorem Token.argument_rule {token : Token} {argument : Argument}
    (stands : token.argument = .ok argument) : argument.rule = (tokenLabel token).1 := by
  cases token with
  | word letters =>
    cases stands
    rfl
  | number numeral =>
    cases stands
    rfl
  | quoted body =>
    rw [Token.argument_quoted] at stands
    cases undone : unescape body with
    | error problem => simp [undone, Except.map] at stands
    | ok content =>
      simp only [undone, Except.map, Except.ok.injEq] at stands
      subst stands
      rfl

/-- Arguments are of the rules of their tokens. -/
theorem map_rule_of_mapM {tokens : List Token} {arguments : List Argument}
    (stand : tokens.mapM Token.argument = .ok arguments) :
    arguments.map Argument.rule = (tokens.map tokenLabel).map Prod.fst := by
  have pairs := forall₂_of_mapM_eq_ok stand
  clear stand
  induction pairs with
  | nil => rfl
  | cons stands _ inductionHypothesis => simp [Token.argument_rule stands, inductionHypothesis]

/-- A token stands for an argument, unless it is a quoted text with an unknown escape. -/
theorem Token.argument_cases {token : Token} (wellFormed : token.WellFormed) :
    (∃ argument, token.argument = .ok argument ∧
      ∀ body, token = .quoted body → ∃ text, Escaped text body) ∨
    ∃ body escaped, token = .quoted body ∧ Misescaped body escaped ∧
      token.argument = .error (.unknownEscape escaped) := by
  cases token with
  | word letters => exact .inl ⟨_, rfl, by rintro _ ⟨⟩⟩
  | number numeral => exact .inl ⟨_, rfl, by rintro _ ⟨⟩⟩
  | quoted body =>
    have undone := IsBody.undone wellFormed
    rw [Token.argument_quoted]
    generalize unescape body = result at undone
    cases undone with
    | whole escapes =>
      refine .inl ⟨_, rfl, ?_⟩
      rintro _ ⟨⟩
      exact ⟨_, escapes⟩
    | unknown misescaped => exact .inr ⟨body, _, rfl, misescaped, rfl⟩

section Tokens

variable {tokens : List Token} (wellFormed : ∀ token ∈ tokens, token.WellFormed)

include wellFormed

/-- Tokens stand for arguments iff the escapes in them are known. -/
theorem exists_arguments_iff :
    (∃ arguments, tokens.mapM Token.argument = .ok arguments) ↔
      Clean (tokens.map tokenLabel) := by
  rw [exists_mapM_eq_ok_iff, clean_map_tokenLabel]
  constructor
  · intro stand body member
    obtain ⟨argument, found⟩ := stand _ member
    rcases Token.argument_cases (wellFormed _ member) with
      ⟨_, _, escapes⟩ | ⟨_, _, _, _, fails⟩
    · exact escapes body rfl
    · cases found.symm.trans fails
  · intro escapes token member
    rcases Token.argument_cases (wellFormed _ member) with
      ⟨argument, found, -⟩ | ⟨body, escaped, rfl, misescaped, -⟩
    · exact ⟨argument, found⟩
    · obtain ⟨text, known⟩ := escapes body member
      cases known.unescape_eq.symm.trans misescaped.unescape_eq

/-- Otherwise the first quoted text with an unknown escape is to blame. -/
theorem mapM_argument_eq_error_iff {problem : Problem} :
    tokens.mapM Token.argument = .error problem ↔ ∃ earlier body later escaped,
      tokens = earlier ++ .quoted body :: later ∧ Clean (earlier.map tokenLabel) ∧
        Misescaped body escaped ∧ problem = .unknownEscape escaped := by
  rw [mapM_eq_error_iff]
  constructor
  · rintro ⟨earlier, token, later, arguments, rfl, read, fails⟩
    have clean := (exists_arguments_iff fun token member => wellFormed token (by simp [member])).1
      ⟨arguments, read⟩
    rcases Token.argument_cases (wellFormed token (by simp)) with
      ⟨argument, found, -⟩ | ⟨body, escaped, rfl, misescaped, blamed⟩
    · cases fails.symm.trans found
    · cases fails.symm.trans blamed
      exact ⟨earlier, body, later, escaped, rfl, clean, misescaped, rfl⟩
  · rintro ⟨earlier, body, later, escaped, rfl, clean, misescaped, rfl⟩
    obtain ⟨arguments, read⟩ :=
      (exists_arguments_iff fun token member => wellFormed token (by simp [member])).2 clean
    refine ⟨earlier, _, later, arguments, rfl, read, ?_⟩
    rw [Token.argument_quoted, misescaped.unescape_eq]
    rfl

end Tokens

/-- The problems of a phrase are its faults. -/
theorem Phrase.operation_eq_error_iff {phrase : Phrase} (wellFormed : phrase.WellFormed)
    {problem : Problem} :
    phrase.operation = .error problem ↔ Faulty (phraseLabels phrase) problem := by
  have blame := @mapM_argument_eq_error_iff _ wellFormed.arguments
  have clean := exists_arguments_iff wellFormed.arguments
  rw [Phrase.operation_eq, bind_eq_error_iff]
  constructor
  · rintro (unread | ⟨arguments, stand, fails⟩)
    · obtain ⟨earlier, body, later, escaped, split, known, misescaped, rfl⟩ := blame.1 unread
      exact .unknownEscape (by rw [split, List.map_append, List.map_cons]; rfl) known misescaped
    · have known := clean.1 ⟨arguments, stand⟩
      split at fails
      · rename_i unnamed
        cases fails
        exact .unknownOperation known (Keyword.named?_eq_none_iff.1 unnamed)
      · rename_i keyword named
        obtain ⟨rfl, misfit⟩ :=
          (Keyword.operation_eq_error_iff (wellFormed_of_mapM wellFormed.arguments stand)).1 fails
        rw [map_rule_of_mapM stand] at misfit
        exact .usage known (Keyword.named?_eq_some_iff.1 named) misfit
  · intro faulty
    unfold phraseLabels at faulty
    cases faulty with
    | unknownEscape split known misescaped =>
      obtain ⟨earlier, others, equal, rfl, found⟩ := List.map_eq_append_iff.1 split
      obtain ⟨token, later, rfl, labelled, -⟩ := List.map_eq_cons_iff.1 found
      obtain rfl := eq_quoted_of_label labelled
      exact .inl (blame.2 ⟨earlier, _, later, _, equal, known, misescaped, rfl⟩)
    | unknownOperation known unnamed =>
      obtain ⟨arguments, stand⟩ := clean.2 known
      exact .inr ⟨arguments, stand, by rw [Keyword.named?_eq_none_iff.2 unnamed]⟩
    | usage known named misfit =>
      obtain ⟨arguments, stand⟩ := clean.2 known
      rw [← map_rule_of_mapM stand] at misfit
      have misused := (Keyword.operation_eq_error_iff
        (wellFormed_of_mapM wellFormed.arguments stand)).2 ⟨rfl, misfit⟩
      exact .inr ⟨arguments, stand, by rw [Keyword.named?_eq_some_iff.2 named]; exact misused⟩

/-- The statement of a phrase fails at its keyword, for a fault of the phrase. -/
theorem Phrase.statement_eq_error_iff {phrase : Phrase} (wellFormed : phrase.WellFormed)
    {error : ParseError} :
    phrase.statement = .error error ↔
      ∃ problem, Faulty (phraseLabels phrase) problem ∧ error = ⟨phrase.position, problem⟩ := by
  simp only [← Phrase.operation_eq_error_iff wellFormed, Phrase.statement]
  cases phrase.operation <;> simp [eq_comm]

/-- Phrases have statements iff none of them is faulty. -/
theorem exists_statements_iff {found : List Phrase}
    (wellFormed : ∀ phrase ∈ found, phrase.WellFormed) :
    (∃ statements, found.mapM Phrase.statement = .ok statements) ↔
      ∀ labels ∈ found.map phraseLabels, ∀ problem, ¬Faulty labels problem := by
  rw [exists_mapM_eq_ok_iff, List.forall_mem_map]
  refine forall₂_congr fun phrase member => ?_
  have fails {error : ParseError} :=
    @Phrase.statement_eq_error_iff _ (wellFormed phrase member) error
  cases stated : phrase.statement with
  | ok statement =>
    refine iff_of_true ⟨statement, rfl⟩ fun problem faulty => ?_
    cases stated.symm.trans (fails.2 ⟨problem, faulty, rfl⟩)
  | error error =>
    obtain ⟨problem, faulty, -⟩ := fails.1 stated
    exact iff_of_false (by simp) fun sound => sound problem faulty

end Stackline.Script
