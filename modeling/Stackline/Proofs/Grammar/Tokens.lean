import Stackline.Proofs.Grammar.Script

/-!
# Scanning is matching

At every input the scanners of tokens and layout come to what the rules of the grammar
come to. As matching is deterministic, this says all about the rules: where a scanner
finds nothing, the rule fails.
-/

namespace Stackline.Grammar

open Stackline.Script
open Stackline.Script.Lexeme (isSpace isEnding isWordStart isWordPart scanQuoted? scanNewline?
  scanToken? chars_scanQuoted?)
open Stackline.Number

variable {source : List Char}

/-- A rule matches what its body does, and its mode says which trees appear. -/
theorem matches_rule {name : Rule} {input text rest : List Char} {children : List (Tree Rule)}
    (split : input = text ++ rest)
    (body : Matches scripts source (scripts.body name) input (some (children, rest))) :
    Matches scripts source (.rule name) input
      (some ((Rule.mode name).trees name text children, rest)) :=
  .rule split body

/-- A silent rule leaves the trees inside. -/
theorem matches_silent {name : Rule} {input rest : List Char} {children : List (Tree Rule)}
    (silent : Rule.mode name = .silent)
    (body : Matches scripts source (scripts.body name) input (some (children, rest))) :
    Matches scripts source (.rule name) input (some (children, rest)) := by
  obtain ⟨text, split⟩ := body.suffix
  have found := matches_rule split.symm body
  rwa [silent] at found

/-- A silent rule for a character class is one. -/
theorem IsClass.silent {name : Rule} {accepts : Char → Bool} (silent : Rule.mode name = .silent)
    (isClass : IsClass scripts source (scripts.body name) accepts) :
    IsClass scripts source (.rule name) accepts := by
  intro input
  have body := isClass input
  cases input with
  | nil => exact .ruleFails body
  | cons c rest =>
    by_cases accepted : accepts c
    · simp only [classResult, accepted, if_true] at body ⊢
      exact matches_silent silent body
    · simp only [classResult, accepted] at body ⊢
      exact .ruleFails body

/-! ### Layout -/

theorem isClass_whitespace : IsClass scripts source (.rule .whitespace) isSpace :=
  .silent rfl ((isClass_literal ' ').choice (isClass_literal '\t'))

/-- A line ending is what the scanner takes for one. -/
theorem matches_newline (input : List Char) :
    Matches scripts source (.rule .newline) input
      ((scanNewline? input).map fun (_, rest) => ([], rest)) := by
  unfold scanNewline?
  split
  · refine matches_silent rfl ?_
    exact .choiceOther (.literalFails (by simp)) (.choice (.literal rfl))
  · rename_i rest notPair
    refine matches_silent rfl ?_
    refine .choiceOther (.literalFails (by simp)) (.choiceOther (.literalFails ?_) (.literal rfl))
    rintro ⟨others, equal⟩
    cases equal
    exact notPair others rfl
  · refine matches_silent rfl ?_
    exact .choice (.literal rfl)
  · rename_i notPair notReturn notFeed
    refine .ruleFails (.choiceOther (.literalFails ?_) (.choiceOther (.literalFails ?_)
      (.literalFails ?_)))
    · rintro ⟨others, equal⟩
      exact notFeed others equal.symm
    · rintro ⟨others, equal⟩
      exact notPair others equal.symm
    · rintro ⟨others, equal⟩
      exact notReturn others equal.symm

theorem startsWith_newline : StartsWith scripts source (.rule .newline) isEnding := by
  intro input
  refine ⟨_, matches_newline input, ?_⟩
  unfold scanNewline?
  split
  · rfl
  · rfl
  · rfl
  · rename_i notPair notReturn notFeed
    cases input with
    | nil => rfl
    | cons c rest =>
      have other : c ≠ '\n' ∧ c ≠ '\r' := by
        constructor
        · rintro rfl
          exact notFeed rest rfl
        · rintro rfl
          exact notReturn rest rfl
      simp [isEnding, other]

/-- A character that does not end a line is in it. -/
theorem isClass_inLine : IsClass scripts source Rule.inLine fun c => !isEnding c :=
  startsWith_newline.except

theorem matches_comment (rest : List Char) :
    Matches scripts source (.rule .comment) ('#' :: rest)
      (some ([], rest.dropWhile (!isEnding ·))) :=
  matches_silent rfl (.sequence (.literal rfl) (isClass_inLine.repeated rest))

theorem comment_fails {input : List Char} (other : input.head? ≠ some '#') :
    Matches scripts source (.rule .comment) input none := by
  refine .ruleFails (.sequenceFails (.literalFails ?_))
  rintro ⟨rest, rfl⟩
  exact other rfl

/-- The input behind a run of layout: blanks, then at most one comment, which goes on to
the end of its line. -/
def skipLayout (input : List Char) : List Char :=
  match input.dropWhile isSpace with
  | '#' :: rest => rest.dropWhile (!isEnding ·)
  | rest => rest

theorem isEnding_head_dropWhile {input : List Char} {c : Char}
    (head : c ∈ (input.dropWhile (!isEnding ·)).head?) : isEnding c := by
  have kept := List.head?_dropWhile_not (!isEnding ·) input
  rw [Option.mem_def.1 head] at kept
  simpa using kept

/-- Skipping takes all layout. -/
theorem matches_layout (input : List Char) :
    Matches scripts source Rule.layout input (some ([], skipLayout input)) := by
  refine .sequence (isClass_whitespace.repeated input) ?_
  unfold skipLayout
  split
  · rename_i rest marked
    rw [marked]
    -- Behind the comment the line ends, so neither a blank nor a comment follows.
    have ended := @isEnding_head_dropWhile rest
    refine .repeated (.sequence (matches_comment rest) (isClass_whitespace.repeated _)) ?_
    generalize rest.dropWhile (!isEnding ·) = after at ended
    cases after with
    | nil => exact .repeatedNone (.sequenceFails (comment_fails (by simp)))
    | cons c others =>
      have ending : isEnding c := ended (by simp)
      have unspaced : isSpace c = false := by grind [isSpace, isEnding]
      have unmarked : c ≠ '#' := by grind [isEnding]
      simp only [List.dropWhile_cons, unspaced]
      exact .repeatedNone (.sequenceFails (comment_fails (by simpa using unmarked)))
  · rename_i unmarked
    refine .repeatedNone (.sequenceFails (comment_fails ?_))
    intro head
    obtain ⟨rest, equal⟩ := List.head?_eq_some_iff.1 head
    exact unmarked rest equal

/-! ### Numbers -/

theorem matches_digits (input : List Char) :
    Matches scripts source Rule.digits input
      ((Numeral.scanDigits? input).map fun (_, rest) => ([], rest)) := by
  refine .repeatedOnce ?_
  cases input with
  | nil => exact .sequenceFails (.oneFails (by simp))
  | cons c rest =>
    by_cases digit : c.isDigit
    · simp only [Numeral.scanDigits?, List.takeWhile_cons, List.dropWhile_cons, digit, if_true]
      exact .sequence (.one digit) ((isClass_one Char.isDigit).repeated rest)
    · simp only [Numeral.scanDigits?, List.takeWhile_cons, digit]
      exact .sequenceFails (.oneFails (by simpa using digit))

theorem matches_minus (input : List Char) :
    Matches scripts source (.optional (.literal ['-'])) input
      (some ([], (Numeral.scanMinus input).2)) := by
  unfold Numeral.scanMinus
  split
  · exact .optional (.literal rfl)
  · rename_i unsigned
    refine .optionalNone (.literalFails ?_)
    rintro ⟨rest, equal⟩
    exact unsigned rest equal.symm

/-- A point without digits is given back. -/
theorem matches_fraction (input : List Char) :
    Matches scripts source (.optional (.sequence (.literal ['.']) Rule.digits)) input
      (some ([], (Numeral.scanFraction input).2)) := by
  unfold Numeral.scanFraction
  split
  · rename_i rest
    have digits := @matches_digits source rest
    cases scanned : Numeral.scanDigits? rest with
    | none =>
      rw [scanned] at digits
      exact .optionalNone (.sequenceFailsLater (.literal rfl) digits)
    | some found =>
      rw [scanned] at digits
      exact .optional (.sequence (.literal rfl) digits)
  · rename_i whole
    refine .optionalNone (.sequenceFails (.literalFails ?_))
    rintro ⟨rest, equal⟩
    exact whole rest equal.symm

theorem matches_sign (input : List Char) :
    Matches scripts source (.optional (.choice (.literal ['-']) (.literal ['+']))) input
      (some ([], (Numeral.scanSign input).2)) := by
  unfold Numeral.scanSign
  split
  · exact .optional (.choice (.literal rfl))
  · exact .optional (.choiceOther (.literalFails (by simp)) (.literal rfl))
  · rename_i notMinus notPlus
    refine .optionalNone (.choiceOther (.literalFails ?_) (.literalFails ?_))
    · rintro ⟨rest, equal⟩
      exact notMinus rest equal.symm
    · rintro ⟨rest, equal⟩
      exact notPlus rest equal.symm

/-- A mark of an exponent without digits is given back, and its sign with it. -/
theorem matches_exponent (input : List Char) :
    Matches scripts source
      (.optional (.sequence (.choice (.literal ['e']) (.literal ['E']))
        (.sequence (.optional (.choice (.literal ['-']) (.literal ['+']))) Rule.digits)))
      input (some ([], (Numeral.scanExponent input).2)) := by
  have mark : IsClass scripts source (.choice (.literal ['e']) (.literal ['E'])) _ :=
    (isClass_literal 'e').choice (isClass_literal 'E')
  have marked := mark input
  unfold Numeral.scanExponent
  split
  · rename_i c rest
    by_cases isMark : c = 'e' ∨ c = 'E'
    · have digits := @matches_digits source (Numeral.scanSign rest).2
      simp only [classResult, Bool.or_eq_true, decide_eq_true_eq, isMark, if_true] at marked ⊢
      cases scanned : Numeral.scanDigits? (Numeral.scanSign rest).2 with
      | none =>
        rw [scanned] at digits
        have fails := (matches_sign rest).sequenceFailsLater digits
        exact .optionalNone (.sequenceFailsLater marked fails)
      | some found =>
        rw [scanned] at digits
        exact .optional (.sequence marked (.sequence (matches_sign rest) digits))
    · simp only [classResult, Bool.or_eq_true, decide_eq_true_eq, isMark, if_false] at marked ⊢
      exact .optionalNone (.sequenceFails marked)
  · exact .optionalNone (.sequenceFails marked)

theorem matches_number (input : List Char) :
    Matches scripts source (.rule .number) input
      ((Numeral.scan? input).map fun (numeral, rest) =>
        ([.node .number numeral.chars []], rest)) := by
  have minus := @matches_minus source input
  have digits := @matches_digits source (Numeral.scanMinus input).2
  cases scanned : Numeral.scan? input with
  | none =>
    cases whole : Numeral.scanDigits? (Numeral.scanMinus input).2 with
    | none =>
      rw [whole] at digits
      exact .ruleFails (.sequenceFailsLater minus (.sequenceFails digits))
    | some found => simp [Numeral.scan?, whole] at scanned
  | some found =>
    obtain ⟨numeral, rest⟩ := found
    have split := (Numeral.chars_scan? scanned).1
    cases whole : Numeral.scanDigits? (Numeral.scanMinus input).2 with
    | none => simp [Numeral.scan?, whole] at scanned
    | some found =>
      rw [whole] at digits
      simp only [Numeral.scan?, whole, Option.some.injEq, Prod.mk.injEq] at scanned
      obtain ⟨-, rfl⟩ := scanned
      exact matches_rule split
        (.sequence minus (.sequence digits (.sequence (matches_fraction _) (matches_exponent _))))

/-! ### Words and quoted texts -/

theorem isClass_wordStart :
    IsClass scripts source (.choice (.one Char.isAlpha) (.literal ['_'])) isWordStart :=
  (isClass_one Char.isAlpha).choice (isClass_literal '_')

theorem isClass_wordPart :
    IsClass scripts source (.choice (.one Char.isAlphanum) (.literal ['_'])) isWordPart :=
  (isClass_one Char.isAlphanum).choice (isClass_literal '_')

theorem matches_ident {c : Char} (start : isWordStart c) (rest : List Char) :
    Matches scripts source (.rule .ident) (c :: rest)
      (some ([.node .ident (c :: rest.takeWhile isWordPart) []], rest.dropWhile isWordPart)) := by
  have opened := @isClass_wordStart source (c :: rest)
  simp only [classResult, start, if_true] at opened
  refine matches_rule ?_ (.sequence opened (isClass_wordPart.repeated rest))
  rw [List.cons_append, List.takeWhile_append_dropWhile]

theorem ident_fails {input : List Char} (other : ∀ c ∈ input.head?, isWordStart c = false) :
    Matches scripts source (.rule .ident) input none := by
  have opened := @isClass_wordStart source input
  cases input with
  | nil => exact .ruleFails (.sequenceFails opened)
  | cons c rest =>
    simp only [classResult, other c (by simp)] at opened
    exact .ruleFails (.sequenceFails opened)

/-- The characters of a quoted text that stand for themselves. -/
def isPlain (c : Char) : Bool :=
  !(c = '"' || (c = '\\' || isEnding c))

theorem isClass_plain : IsClass scripts source Rule.plain isPlain :=
  ((isClass_literal '"').startsWith.choice
    ((isClass_literal '\\').startsWith.choice startsWith_newline)).except

/-- A character of a quoted text, an escape or one that stands for itself, fails at every
character that is neither plain nor a backslash. -/
theorem character_fails {input : List Char} (barred : ∀ c ∈ input.head?, isPlain c = false)
    (unescaped : input.head? ≠ some '\\') :
    Matches scripts source (.choice Rule.plain Rule.escape) input none := by
  have plain := @isClass_plain source input
  have escape : Matches scripts source Rule.escape input none := by
    refine .sequenceFails (.literalFails ?_)
    rintro ⟨rest, rfl⟩
    exact unescaped rfl
  cases input with
  | nil => exact plain.choiceOther escape
  | cons c rest =>
    simp only [classResult, barred c (by simp)] at plain
    exact plain.choiceOther escape

/-- A backslash takes the next character of the line with it. -/
theorem matches_escape (input : List Char) :
    Matches scripts source (.choice Rule.plain Rule.escape) ('\\' :: input)
      (classResult (!isEnding ·) input) := by
  have plain : Matches scripts source Rule.plain ('\\' :: input) none :=
    isClass_plain ('\\' :: input)
  have escaped := @isClass_inLine source input
  refine plain.choiceOther ?_
  cases result : classResult (!isEnding ·) input with
  | none =>
    rw [result] at escaped
    exact .sequenceFailsLater (.literal rfl) escaped
  | some found =>
    rw [result] at escaped
    exact .sequence (.literal rfl) escaped

/-- The characters of a quoted text are taken up to its closing quote, or up to a
character that cannot stand in it. -/
theorem matches_characters (input : List Char) :
    ∃ rest, Matches scripts source (.repeated (.choice Rule.plain Rule.escape)) input
        (some ([], rest)) ∧
      ∀ after, rest = '"' :: after ↔ (scanQuoted? input).map Prod.snd = some after := by
  fun_induction scanQuoted? input with
  | case1 => exact ⟨[], .repeatedNone (character_fails (by simp) (by simp)), by simp⟩
  | case2 rest =>
    exact ⟨'"' :: rest, .repeatedNone (character_fails (by simp [isPlain]) (by simp)), by simp⟩
  | case3 escaped rest ending =>
    have fails := @matches_escape source (escaped :: rest)
    simp only [classResult, ending, Bool.not_true] at fails
    exact ⟨_, fails.repeatedNone, by simp⟩
  | case4 escaped rest notEnding inductionHypothesis =>
    obtain ⟨unread, found, closed⟩ := inductionHypothesis
    have item := @matches_escape source (escaped :: rest)
    simp only [classResult, notEnding, Bool.not_false, if_true] at item
    exact ⟨unread, item.repeated found, by simpa [Option.map_map, Function.comp_def] using closed⟩
  | case5 c rest notQuote notEscape barred =>
    by_cases backslash : c = '\\'
    · subst backslash
      have fails := @matches_escape source rest
      cases rest with
      | nil => exact ⟨_, fails.repeatedNone, by simp⟩
      | cons escaped rest => exact absurd rfl (notEscape escaped rest rfl)
    · have unquoted : c ≠ '"' := by
        rintro rfl
        exact notQuote rfl
      refine ⟨c :: rest, .repeatedNone (character_fails ?_ (by simpa using backslash)), ?_⟩
      · simp_all [isPlain]
      · simp [unquoted]
  | case6 c rest notQuote notEscape notBarred inductionHypothesis =>
    obtain ⟨unread, found, closed⟩ := inductionHypothesis
    have plain : isPlain c := by
      have unquoted : c ≠ '"' := by
        rintro rfl
        exact notQuote rfl
      simp_all [isPlain]
    have item := @isClass_plain source (c :: rest)
    simp only [classResult, plain, if_true] at item
    exact ⟨unread, item.choice.repeated found,
      by simpa [Option.map_map, Function.comp_def] using closed⟩

theorem matches_string (input : List Char) :
    Matches scripts source (.rule .string) ('"' :: input)
      ((scanQuoted? input).map fun (body, rest) =>
        ([.node .string ('"' :: body ++ ['"']) [.node .text body []]], rest)) := by
  obtain ⟨unread, characters, closed⟩ := @matches_characters source input
  cases scanned : scanQuoted? input with
  | none =>
    have unclosed : ¬['"'] <+: unread := by
      rintro ⟨rest, equal⟩
      simpa [scanned] using (closed rest).1 equal.symm
    obtain ⟨text, split⟩ := characters.suffix
    exact .ruleFails (.sequenceFailsLater (.literal rfl)
      (.sequenceFailsLater (matches_rule split.symm characters) (.literalFails unclosed)))
  | some found =>
    obtain ⟨body, rest⟩ := found
    have split := chars_scanQuoted? scanned
    have equal : unread = '"' :: rest := (closed rest).2 (by simp [scanned])
    rw [equal] at characters
    refine matches_rule ?_ (.sequence (.literal rfl)
      (.sequence (matches_rule split characters) (.literal rfl)))
    simp [split]

theorem string_fails {input : List Char} (other : input.head? ≠ some '"') :
    Matches scripts source (.rule .string) input none := by
  refine .ruleFails (.sequenceFails (.literalFails ?_))
  rintro ⟨rest, rfl⟩
  exact other rfl

/-! ### Tokens -/

@[simp] theorem label_tree (token : Token) : token.tree.label = tokenLabel token := by
  cases token <;> rfl

/-- A numeral opens with a digit or a minus sign. -/
theorem scan?_eq_none {c : Char} (notMinus : c ≠ '-') (notDigit : c.isDigit = false)
    (rest : List Char) : Numeral.scan? (c :: rest) = none := by
  simp [Numeral.scan?, Numeral.scanMinus, Numeral.scanDigits?, notMinus, notDigit]

theorem not_isDigit_of_isWordStart {c : Char} (start : isWordStart c) : c.isDigit = false := by
  rw [Bool.eq_false_iff]
  intro digit
  have bound : c.val ≤ '9'.val := of_decide_eq_true (Bool.and_eq_true_iff.1 digit).2
  simp only [isWordStart, Bool.or_eq_true, decide_eq_true_eq] at start
  rcases start with letter | rfl
  · rcases Bool.or_eq_true_iff.1 letter with upper | lower
    · have low : 'A'.val ≤ c.val := (of_decide_eq_true upper).1
      exact absurd (UInt32.le_trans low bound) (by decide)
    · have low : 'a'.val ≤ c.val := of_decide_eq_true (Bool.and_eq_true_iff.1 lower).1
      exact absurd (UInt32.le_trans low bound) (by decide)
  · exact absurd digit (by decide)

/-- The rules of tokens. -/
def tokenRules : List Rule :=
  [.string, .number, .ident]

/-- What the scanner comes to, as far as it is a token of a rule. -/
def scanAs (name : Rule) (input : List Char) : Option (List (Tree Rule) × List Char) :=
  match scanToken? input with
  | none => none
  | some (token, rest) =>
    if (tokenLabel token).1 = name then some ([token.tree], rest) else none

/-- A rule of tokens matches where the scanner takes a token of that rule: its first
character decides which of the rules can match. -/
theorem matches_token {name : Rule} (isToken : name ∈ tokenRules) (input : List Char) :
    Matches scripts source (.rule name) input (scanAs name input) := by
  have number := @matches_number source input
  simp only [tokenRules, List.mem_cons, List.not_mem_nil, or_false] at isToken
  cases input with
  | nil =>
    rcases isToken with rfl | rfl | rfl
    · exact string_fails (by simp)
    · exact number
    · exact ident_fails (by simp)
  | cons c rest =>
    rw [scanAs, scanToken?]
    by_cases start : isWordStart c
    · have notMinus : c ≠ '-' := by
        rintro rfl
        cases start
      have unquoted : c ≠ '"' := by
        rintro rfl
        cases start
      rw [scan?_eq_none notMinus (not_isDigit_of_isWordStart start)] at number
      rw [if_pos start]
      rcases isToken with rfl | rfl | rfl
      · exact string_fails (by simpa using unquoted)
      · exact number
      · exact matches_ident start rest
    have notWord : Matches scripts source (.rule .ident) (c :: rest) none :=
      ident_fails (by simpa using start)
    rw [if_neg start]
    by_cases quote : c = '"'
    · subst quote
      have string := @matches_string source rest
      rw [scan?_eq_none (by decide) (by decide)] at number
      rw [if_pos rfl]
      cases found : scanQuoted? rest <;> rw [found] at string <;>
        rcases isToken with rfl | rfl | rfl
      · exact string
      · exact number
      · exact notWord
      · exact string
      · exact number
      · exact notWord
    · have notString : Matches scripts source (.rule .string) (c :: rest) none :=
        string_fails (by simpa using quote)
      rw [if_neg quote]
      cases found : Numeral.scan? (c :: rest) <;> rw [found] at number <;>
        rcases isToken with rfl | rfl | rfl
      · exact notString
      · exact number
      · exact notWord
      · exact notString
      · exact number
      · exact notWord

theorem matches_token_none {name : Rule} (isToken : name ∈ tokenRules) {input : List Char}
    (other : ∀ token rest, scanToken? input = some (token, rest) → (tokenLabel token).1 ≠ name) :
    Matches scripts source (.rule name) input none := by
  have found := @matches_token source _ isToken input
  have unscanned : scanAs name input = none := by
    unfold scanAs
    split
    · rfl
    · rename_i token rest scanned
      exact if_neg (other token rest scanned)
  rwa [unscanned] at found

/-- An argument is the token that the scanner takes. -/
theorem matches_arg (input : List Char) :
    Matches scripts source (.rule .arg) input
      ((scanToken? input).map fun (token, rest) => ([token.tree], rest)) := by
  have string := @matches_token source .string (by decide) input
  have number := @matches_token source .number (by decide) input
  have ident := @matches_token source .ident (by decide) input
  simp only [scanAs] at string number ident
  cases found : scanToken? input with
  | none =>
    rw [found] at string number ident
    exact .ruleFails (string.choiceOther (number.choiceOther ident))
  | some result =>
    rw [found] at string number ident
    obtain ⟨token, rest⟩ := result
    cases token with
    | word letters => exact matches_silent rfl (string.choiceOther (number.choiceOther ident))
    | number numeral => exact matches_silent rfl (string.choiceOther number.choice)
    | quoted body => exact matches_silent rfl string.choice

end Stackline.Grammar
