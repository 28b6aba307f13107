import Stackline.Proofs.Except
import Stackline.Proofs.Number.Literal
import Stackline.Script.Statement

/-!
# What scripts are made of

The classes of tokens, said without reference to how they are scanned, and what
follows for the operations of a script: names are words, a text has no carriage
return, and what is pushed is a number. `permitted_of_parse` holds for every source
that can be read.
-/

namespace Stackline.Script

open Stackline.Number

/-- A word: a letter or an underscore, then letters, digits and underscores. -/
inductive IsWord : List Char → Prop where
  | mk {first : Char} {others : List Char} (opens : Lexeme.isWordStart first)
      (continues : ∀ c ∈ others, Lexeme.isWordPart c) : IsWord (first :: others)

/-- The body of a quoted text: characters that stand for themselves, and pairs of
a backslash and another character. No line ends in it. -/
inductive IsBody : List Char → Prop where
  | nil : IsBody []
  | plain {c : Char} {rest : List Char} (notQuote : c ≠ '"') (notEscape : c ≠ '\\')
      (notEnding : Lexeme.isEnding c = false) (tail : IsBody rest) : IsBody (c :: rest)
  | escape {c : Char} {rest : List Char} (notEnding : Lexeme.isEnding c = false)
      (tail : IsBody rest) : IsBody ('\\' :: c :: rest)

/-- A token of its class. -/
def Token.WellFormed : Token → Prop
  | .word letters => IsWord letters
  | .number numeral => numeral.WellFormed
  | .quoted body => IsBody body

namespace Lexeme

theorem isBody_scanQuoted? {input body rest : List Char}
    (scanned : scanQuoted? input = some (body, rest)) : IsBody body := by
  fun_induction scanQuoted? input generalizing body rest with
  | case1 => cases scanned
  | case2 =>
    cases scanned
    exact .nil
  | case3 => cases scanned
  | case4 escaped tail notEnding inductionHypothesis =>
    obtain ⟨⟨found, after⟩, foundScan, equal⟩ := Option.map_eq_some_iff.1 scanned
    cases equal
    exact .escape (by simpa using notEnding) (inductionHypothesis foundScan)
  | case5 => cases scanned
  | case6 c tail notQuote _ allowed inductionHypothesis =>
    obtain ⟨⟨found, after⟩, foundScan, equal⟩ := Option.map_eq_some_iff.1 scanned
    cases equal
    simp only [Bool.or_eq_true, decide_eq_true_eq, not_or, Bool.not_eq_true] at allowed
    refine .plain ?_ allowed.1 allowed.2 (inductionHypothesis foundScan)
    rintro rfl
    exact notQuote rfl

/-- A scanned token is of its class. -/
theorem wellFormed_scanToken? {input rest : List Char} {token : Token}
    (scanned : scanToken? input = some (token, rest)) : token.WellFormed := by
  unfold scanToken? at scanned
  split at scanned
  · cases scanned
  · split at scanned
    · rename_i opens
      cases scanned
      exact .mk opens fun c member => List.all_eq_true.1 List.all_takeWhile c member
    · split at scanned
      · obtain ⟨⟨body, after⟩, bodyScan, equal⟩ := Option.map_eq_some_iff.1 scanned
        cases equal
        exact isBody_scanQuoted? bodyScan
      · obtain ⟨⟨numeral, after⟩, numeralScan, equal⟩ := Option.map_eq_some_iff.1 scanned
        cases equal
        exact Numeral.wellFormed_scan? numeralScan

theorem wellFormed_scan? {input rest : List Char} {token : Token}
    (scanned : scan? input = some (.token token, rest)) : token.WellFormed := by
  unfold scan? at scanned
  split at scanned
  · cases scanned
  · split at scanned
    · cases scanned
    · split at scanned
      · cases scanned
      · split at scanned
        · obtain ⟨⟨ending, after⟩, _, equal⟩ := Option.map_eq_some_iff.1 scanned
          cases equal
        · obtain ⟨⟨content, after⟩, tokenScan, equal⟩ := Option.map_eq_some_iff.1 scanned
          cases equal
          exact wellFormed_scanToken? tokenScan

end Lexeme

/-- Every token of a text is of its class. -/
theorem wellFormed_of_mem_lexemes {input : List Char} {token : Token}
    (member : .token token ∈ (lexemes input).1) : token.WellFormed := by
  fun_induction lexemes input with
  | case1 => cases member
  | case2 input lexeme rest scanned others unread equal inductionHypothesis =>
    rcases List.mem_cons.1 member with rfl | later
    · exact Lexeme.wellFormed_scan? scanned
    · exact inductionHypothesis (by rw [equal]; exact later)

/-- A phrase that is made of tokens of their classes. -/
structure Phrase.WellFormed (phrase : Phrase) : Prop where
  keyword : IsWord phrase.keyword
  arguments : ∀ token ∈ phrase.arguments, token.WellFormed

/-- Grouping keeps tokens as they are. -/
theorem wellFormed_group {position : Position} {current : Option Phrase} {unread : List Char}
    {read : List Lexeme} {found : List Phrase}
    (grouped : group position current unread read = .ok found)
    (tokens : ∀ token, .token token ∈ read → token.WellFormed)
    (open_ : ∀ phrase ∈ current, phrase.WellFormed) :
    ∀ phrase ∈ found, phrase.WellFormed := by
  fun_induction group position current unread read generalizing found with
  | case1 =>
    cases grouped
    simpa using open_
  | case2 => cases grouped
  | case3 position current spaces rest inductionHypothesis =>
    exact inductionHypothesis grouped (fun token member => tokens token (.tail _ member)) open_
  | case4 position current remark rest inductionHypothesis =>
    exact inductionHypothesis grouped (fun token member => tokens token (.tail _ member)) open_
  | case5 position current ending rest inductionHypothesis =>
    cases others : group (position.advance ending) none unread rest with
    | error refusal => simp [others, Except.map] at grouped
    | ok later =>
      simp only [others, Except.map, Except.ok.injEq] at grouped
      subst grouped
      intro phrase member
      rcases List.mem_append.1 member with here | there
      · exact open_ phrase (by simpa using here)
      · exact inductionHypothesis others (fun token member => tokens token (.tail _ member))
          (fun _ none => by cases none) phrase there
  | case6 position rest phrase token inductionHypothesis =>
    refine inductionHypothesis grouped (fun token member => tokens token (.tail _ member)) ?_
    rintro _ ⟨⟩
    obtain ⟨keyword, arguments⟩ := open_ phrase rfl
    refine ⟨keyword, fun argument member => ?_⟩
    rcases List.mem_append.1 member with earlier | last
    · exact arguments argument earlier
    · cases List.mem_singleton.1 last
      exact tokens token (.head _)
  | case7 position rest letters inductionHypothesis =>
    refine inductionHypothesis grouped (fun token member => tokens token (.tail _ member)) ?_
    rintro _ ⟨⟩
    exact ⟨tokens (.word letters) (.head _), fun _ member => by cases member⟩
  | case8 => cases grouped

/-- The phrases of a text are made of tokens of their classes. -/
theorem wellFormed_phrases {source : List Char} {found : List Phrase}
    (read : phrases source = .ok found) : ∀ phrase ∈ found, phrase.WellFormed :=
  wellFormed_group read (fun _ => wellFormed_of_mem_lexemes) (fun _ none => by cases none)

/-! ### Arguments -/

/-- The argument that a token stands for. -/
def Token.argument (token : Token) : Except Problem Argument :=
  Argument.ofTree token.tree

theorem Token.argument_quoted (body : List Char) :
    Token.argument (.quoted body) =
      (unescape body).map fun content => .text (String.ofList content) :=
  rfl

/-- An argument that a token of its class stands for. -/
def Argument.WellFormed : Argument → Prop
  | .word letters => IsWord letters.toList
  | .number literal => ∃ numeral : Numeral, numeral.WellFormed ∧ literal = numeral.chars
  | .text content => '\r' ∉ content.toList

theorem unescapeChar?_ne_return {escaped c : Char} (found : unescapeChar? escaped = some c) :
    c ≠ '\r' := by
  unfold unescapeChar? at found
  split at found <;> cases found <;> decide

/-- Undoing escapes brings no carriage return into a text. -/
theorem not_mem_unescape {body content : List Char} (isBody : IsBody body)
    (undone : unescape body = .ok content) : '\r' ∉ content := by
  fun_induction unescape body generalizing content with
  | case1 =>
    cases undone
    exact List.not_mem_nil
  | case2 => cases undone
  | case3 escaped rest c found inductionHypothesis =>
    cases isBody with
    | plain _ notEscape => exact absurd rfl notEscape
    | escape _ tail =>
      cases others : unescape rest with
      | error problem => simp [others, Except.map] at undone
      | ok later =>
        simp only [others, Except.map, Except.ok.injEq] at undone
        subst undone
        simp only [List.mem_cons, not_or]
        exact ⟨(unescapeChar?_ne_return found).symm, inductionHypothesis tail others⟩
  | case4 => cases undone
  | case5 c rest _ _ inductionHypothesis =>
    cases isBody with
    | plain _ _ notEnding tail =>
      cases others : unescape rest with
      | error problem => simp [others, Except.map] at undone
      | ok later =>
        simp only [others, Except.map, Except.ok.injEq] at undone
        subst undone
        simp only [List.mem_cons, not_or]
        refine ⟨?_, inductionHypothesis tail others⟩
        rintro rfl
        simp [Lexeme.isEnding] at notEnding
    | escape _ _ => simp_all

theorem Token.WellFormed.argument {token : Token} {argument : Argument}
    (wellFormed : token.WellFormed) (stands : token.argument = .ok argument) :
    argument.WellFormed := by
  cases token with
  | word letters =>
    cases stands
    simpa [Argument.WellFormed, Token.WellFormed] using wellFormed
  | number numeral =>
    cases stands
    exact ⟨numeral, wellFormed, rfl⟩
  | quoted body =>
    rw [Token.argument_quoted] at stands
    cases undone : unescape body with
    | error problem => simp [undone, Except.map] at stands
    | ok content =>
      simp only [undone, Except.map, Except.ok.injEq] at stands
      subst stands
      simpa [Argument.WellFormed] using not_mem_unescape wellFormed undone

theorem wellFormed_of_mapM {tokens : List Token} {arguments : List Argument}
    (wellFormed : ∀ token ∈ tokens, token.WellFormed)
    (stand : tokens.mapM Token.argument = .ok arguments) :
    ∀ argument ∈ arguments, argument.WellFormed := by
  intro argument member
  obtain ⟨token, found, stands⟩ := mem_of_mapM_eq_ok stand member
  exact (wellFormed token found).argument stands

/-! ### Pushed numbers -/

/-- An integer: digits, with or without a minus sign. -/
def IsInteger (text : List Char) : Prop :=
  ∃ digits, Digits digits ∧ (text = digits ∨ text = '-' :: digits)

/-- A number that is marked as real by a point or an exponent. -/
structure IsReal (numeral : Numeral) : Prop where
  wellFormed : numeral.WellFormed
  marked : '.' ∈ numeral.chars ∨ 'e' ∈ numeral.chars ∨ 'E' ∈ numeral.chars

/-- An integer is the text of a number without a fraction and without an exponent. -/
theorem isInteger_iff {text : List Char} :
    IsInteger text ↔ ∃ numeral : Numeral, numeral.WellFormed ∧ numeral.isReal = false ∧
      numeral.chars = text := by
  constructor
  · rintro ⟨digits, isDigits, rfl | rfl⟩
    · exact ⟨⟨false, text, none, none⟩, ⟨isDigits, by simp, by simp⟩, rfl,
        by simp [Numeral.chars, Numeral.fractionChars, Numeral.exponentChars]⟩
    · exact ⟨⟨true, digits, none, none⟩, ⟨isDigits, by simp, by simp⟩, rfl,
        by simp [Numeral.chars, Numeral.fractionChars, Numeral.exponentChars]⟩
  · rintro ⟨⟨negative, whole, fraction, exponent⟩, wellFormed, integer, rfl⟩
    simp only [Numeral.isReal, Bool.or_eq_false_iff, Option.isSome_eq_false_iff,
      Option.isNone_iff_eq_none] at integer
    obtain ⟨rfl, rfl⟩ := integer
    refine ⟨whole, wellFormed.whole, ?_⟩
    cases negative
    · exact .inl (by simp [Numeral.chars, Numeral.fractionChars, Numeral.exponentChars])
    · exact .inr (by simp [Numeral.chars, Numeral.fractionChars, Numeral.exponentChars])

theorem IsInteger.unmarked {text : List Char} (integer : IsInteger text) :
    '.' ∉ text ∧ 'e' ∉ text ∧ 'E' ∉ text := by
  obtain ⟨digits, ⟨_, all⟩, split⟩ := integer
  have absent {c : Char} (notDigit : c.isDigit = false) : c ∉ digits := by
    intro member
    have digit := all c member
    simp [notDigit] at digit
  have marks : '.' ∉ digits ∧ 'e' ∉ digits ∧ 'E' ∉ digits :=
    ⟨absent rfl, absent rfl, absent rfl⟩
  rcases split with rfl | rfl
  · exact marks
  · simpa using marks

/-- A number is real iff its text has a point or the mark of an exponent. -/
theorem isReal_iff {numeral : Numeral} :
    IsReal numeral ↔ numeral.WellFormed ∧ numeral.isReal := by
  constructor
  · rintro ⟨wellFormed, marked⟩
    refine ⟨wellFormed, ?_⟩
    cases real : numeral.isReal with
    | true => rfl
    | false =>
      obtain ⟨noPoint, noSmall, noCapital⟩ :=
        (isInteger_iff.2 ⟨numeral, wellFormed, real, rfl⟩).unmarked
      rcases marked with point | small | capital
      · exact absurd point noPoint
      · exact absurd small noSmall
      · exact absurd capital noCapital
  · rintro ⟨wellFormed, real⟩
    refine ⟨wellFormed, ?_⟩
    simp only [Numeral.isReal, Bool.or_eq_true, Option.isSome_iff_exists] at real
    rcases real with ⟨digits, fraction⟩ | ⟨part, exponent⟩
    · exact .inl (by simp [Numeral.chars, Numeral.fractionChars, fraction])
    · have mark : part.mark ∈ numeral.chars := by
        simp [Numeral.chars, Numeral.exponentChars, Exponent.chars, exponent]
      rcases (wellFormed.exponent part exponent).mark with equal | equal
      · exact .inr (.inl (equal ▸ mark))
      · exact .inr (.inr (equal ▸ mark))

/-- The operation that pushes a number. -/
def Operation.ofNumeral (numeral : Numeral) : Operation :=
  if numeral.isReal then .pushReal numeral.constantText
  else .pushInteger (String.ofList numeral.chars)

/-- The text of a number is pushed as that number, and never refused. -/
theorem Operation.pushed_chars {numeral : Numeral} (wellFormed : numeral.WellFormed) :
    Operation.pushed numeral.chars = .ok (.ofNumeral numeral) := by
  have marked : (numeral.chars.any fun c => c = '.' || c = 'e' || c = 'E') = numeral.isReal := by
    have real : IsReal numeral ↔ numeral.isReal :=
      isReal_iff.trans (and_iff_right wellFormed)
    rw [Bool.eq_iff_iff, ← real, List.any_eq_true]
    constructor
    · rintro ⟨c, member, isMark⟩
      simp only [Bool.or_eq_true, decide_eq_true_eq, or_assoc] at isMark
      refine ⟨wellFormed, ?_⟩
      rcases isMark with rfl | rfl | rfl
      · exact .inl member
      · exact .inr (.inl member)
      · exact .inr (.inr member)
    · rintro ⟨-, point | small | capital⟩
      · exact ⟨_, point, rfl⟩
      · exact ⟨_, small, rfl⟩
      · exact ⟨_, capital, rfl⟩
  simp only [Operation.pushed, Operation.ofNumeral, marked, Numeral.read?_chars wellFormed]
  split <;> rfl

/-! ### Operations -/

/-- The operations that a script can hold. -/
def Operation.Permitted : Operation → Prop
  | .declare type name => IsWord type.toList ∧ IsWord name.toList
  | .read name => IsWord name.toList
  | .writeText text => '\r' ∉ text.toList
  | .writeVariable name => IsWord name.toList
  | .print => True
  | .pushInteger text => IsInteger text.toList
  | .pushReal text => ∃ numeral, IsReal numeral ∧ text = numeral.constantText
  | .load name => IsWord name.toList
  | .arithmetic _ => True
  | .store name => IsWord name.toList

/-- A permitted integer is spelled as a literal. -/
theorem Operation.Permitted.literal_integer {text : String}
    (permitted : (Operation.pushInteger text).Permitted) : Literal .i32 text := by
  obtain ⟨numeral, wellFormed, integer, spelled⟩ := isInteger_iff.1 permitted
  rw [← String.ofList_toList (s := text), ← spelled]
  exact .integer wellFormed integer

/-- A permitted real number is spelled as a literal. -/
theorem Operation.Permitted.literal_real {text : String}
    (permitted : (Operation.pushReal text).Permitted) : Literal .f32 text := by
  obtain ⟨numeral, real, rfl⟩ := permitted
  exact Numeral.literal_constantText real.wellFormed

theorem permitted_ofNumeral {numeral : Numeral} (wellFormed : numeral.WellFormed) :
    (Operation.ofNumeral numeral).Permitted := by
  unfold Operation.ofNumeral
  split
  · rename_i real
    exact ⟨numeral, isReal_iff.2 ⟨wellFormed, real⟩, rfl⟩
  · rename_i integer
    exact isInteger_iff.2 ⟨numeral, wellFormed, by simpa using integer, by simp⟩

/-- A keyword forms permitted operations only. -/
theorem Keyword.permitted_operation {keyword : Keyword} {arguments : List Argument}
    {operation : Operation} (wellFormed : ∀ argument ∈ arguments, argument.WellFormed)
    (formed : keyword.operation arguments = .ok operation) : operation.Permitted := by
  unfold Keyword.operation at formed
  split at formed
  -- What is pushed is not at hand before its text is known to be that of a number.
  any_goals cases formed
  · exact ⟨wellFormed _ (.head _), wellFormed _ (.tail _ (.head _))⟩
  · exact wellFormed _ (.head _)
  · exact wellFormed _ (.head _)
  · exact wellFormed _ (.head _)
  · trivial
  · obtain ⟨numeral, isNumeral, rfl⟩ := wellFormed _ (.head _)
    cases (Operation.pushed_chars isNumeral).symm.trans formed
    exact permitted_ofNumeral isNumeral
  · exact wellFormed _ (.head _)
  · exact wellFormed _ (.head _)
  · trivial

/-- The operation of a phrase, from the arguments that its tokens stand for. -/
theorem Phrase.operation_eq (phrase : Phrase) :
    phrase.operation = (phrase.arguments.mapM Token.argument >>= fun arguments =>
      match Keyword.named? (String.ofList phrase.keyword) with
      | none => .error (.unknownOperation (String.ofList phrase.keyword))
      | some keyword => keyword.operation arguments) := by
  rw [Phrase.operation, Phrase.trees, Operation.ofTrees, List.mapM_map]
  rfl

theorem Phrase.WellFormed.permitted {phrase : Phrase} {operation : Operation}
    (wellFormed : phrase.WellFormed) (meant : phrase.operation = .ok operation) :
    operation.Permitted := by
  rw [Phrase.operation_eq] at meant
  obtain ⟨arguments, stand, formed⟩ := bind_eq_ok_iff.1 meant
  split at formed
  · cases formed
  · exact Keyword.permitted_operation (wellFormed_of_mapM wellFormed.arguments stand) formed

/-- Every operation of a script is permitted. -/
theorem permitted_of_parse {source : String} {statements : List Statement}
    (parsed : parse source = .ok statements) :
    ∀ statement ∈ statements, statement.operation.Permitted := by
  intro statement member
  unfold parse parseChars at parsed
  split at parsed
  · cases parsed
  · rename_i found read
    obtain ⟨phrase, phraseMember, stated⟩ := mem_of_mapM_eq_ok parsed member
    unfold Phrase.statement at stated
    split at stated
    · rename_i operation meant
      cases stated
      exact (wellFormed_phrases read phrase phraseMember).permitted meant
    · cases stated

end Stackline.Script
