import Stackline.Number.Numeral

/-!
# Lexemes

The smallest pieces of a source text: tokens, and the layout between them. The
lexer keeps every character: what a lexeme is scanned from is its own text and the
rest (`Lexeme.chars_scan?`). Which tokens may stand where is not decided here.
-/

namespace Stackline.Script

open Stackline.Number

/-- A piece of text that carries meaning. A quoted text is kept as it stands
between its quotes, with its escapes. -/
inductive Token where
  | word (letters : List Char)
  | number (numeral : Numeral)
  | quoted (body : List Char)
  deriving DecidableEq, Repr

/-- The source text of a token. -/
def Token.chars : Token → List Char
  | .word letters => letters
  | .number numeral => numeral.chars
  | .quoted body => '"' :: body ++ ['"']

/-- A token, or a piece of layout. A comment is kept without its mark. -/
inductive Lexeme where
  | blank (spaces : List Char)
  | comment (remark : List Char)
  | newline (ending : List Char)
  | token (content : Token)
  deriving DecidableEq, Repr

namespace Lexeme

/-- The source text of a lexeme. -/
def chars : Lexeme → List Char
  | .blank spaces => spaces
  | .comment remark => '#' :: remark
  | .newline ending => ending
  | .token content => content.chars

/-- The characters that separate tokens on a line. -/
def isSpace (c : Char) : Bool :=
  c = ' ' || c = '\t'

/-- The characters that end a line. -/
def isEnding (c : Char) : Bool :=
  c = '\n' || c = '\r'

/-- The characters that open a word. -/
def isWordStart (c : Char) : Bool :=
  c.isAlpha || c = '_'

/-- The characters that continue a word. -/
def isWordPart (c : Char) : Bool :=
  c.isAlphanum || c = '_'

/-- The body of a quoted text, read from behind the opening quote, and what
follows the closing one. A backslash takes the next character with it; neither
may be the end of a line. -/
def scanQuoted? : List Char → Option (List Char × List Char)
  | [] => none
  | '"' :: rest => some ([], rest)
  | '\\' :: escaped :: rest =>
    if isEnding escaped then none
    else (scanQuoted? rest).map fun (body, rest) => ('\\' :: escaped :: body, rest)
  | c :: rest =>
    if c = '\\' || isEnding c then none
    else (scanQuoted? rest).map fun (body, rest) => (c :: body, rest)

/-- A line ending at the head of the input: a line feed, a carriage return, or
the pair of both. -/
def scanNewline? : List Char → Option (List Char × List Char)
  | '\r' :: '\n' :: rest => some (['\r', '\n'], rest)
  | '\r' :: rest => some (['\r'], rest)
  | '\n' :: rest => some (['\n'], rest)
  | _ => none

/-- The token at the head of the input. The first character decides its class,
and the longest token of the class is taken. -/
def scanToken? : List Char → Option (Token × List Char)
  | [] => none
  | c :: rest =>
    if isWordStart c then
      some (.word (c :: rest.takeWhile isWordPart), rest.dropWhile isWordPart)
    else if c = '"' then
      (scanQuoted? rest).map fun (body, rest) => (.quoted body, rest)
    else
      (Numeral.scan? (c :: rest)).map fun (numeral, rest) => (.number numeral, rest)

/-- The lexeme at the head of the input, if there is one. -/
def scan? : List Char → Option (Lexeme × List Char)
  | [] => none
  | c :: rest =>
    if isSpace c then
      some (.blank (c :: rest.takeWhile isSpace), rest.dropWhile isSpace)
    else if c = '#' then
      some (.comment (rest.takeWhile (!isEnding ·)), rest.dropWhile (!isEnding ·))
    else if isEnding c then
      (scanNewline? (c :: rest)).map fun (ending, rest) => (.newline ending, rest)
    else
      (scanToken? (c :: rest)).map fun (content, rest) => (.token content, rest)

theorem chars_scanQuoted? {input body rest : List Char}
    (scanned : scanQuoted? input = some (body, rest)) : input = body ++ '"' :: rest := by
  fun_induction scanQuoted? input generalizing body rest with
  | case1 => cases scanned
  | case2 => simp_all
  | case3 => cases scanned
  | case4 escaped tail notEnding inductionHypothesis =>
    obtain ⟨⟨found, after⟩, foundScan, equal⟩ := Option.map_eq_some_iff.1 scanned
    cases equal
    simp [inductionHypothesis foundScan]
  | case5 => cases scanned
  | case6 c tail _ _ notEnding inductionHypothesis =>
    obtain ⟨⟨found, after⟩, foundScan, equal⟩ := Option.map_eq_some_iff.1 scanned
    cases equal
    simp [inductionHypothesis foundScan]

theorem chars_scanNewline? {input ending rest : List Char}
    (scanned : scanNewline? input = some (ending, rest)) :
    input = ending ++ rest ∧ ending ≠ [] := by
  unfold scanNewline? at scanned
  split at scanned <;> cases scanned <;> simp

theorem chars_scanToken? {input rest : List Char} {token : Token}
    (scanned : scanToken? input = some (token, rest)) :
    input = token.chars ++ rest ∧ token.chars ≠ [] := by
  unfold scanToken? at scanned
  split at scanned
  · cases scanned
  · rename_i c tail
    split at scanned
    · cases scanned
      simp [Token.chars, List.takeWhile_append_dropWhile]
    · split at scanned
      · rename_i quote
        obtain ⟨⟨body, after⟩, bodyScan, equal⟩ := Option.map_eq_some_iff.1 scanned
        cases equal
        simp [Token.chars, chars_scanQuoted? bodyScan, quote]
      · obtain ⟨⟨numeral, after⟩, numeralScan, equal⟩ := Option.map_eq_some_iff.1 scanned
        cases equal
        exact Numeral.chars_scan? numeralScan

/-- A scanned lexeme is read off the head of the input and is not empty. -/
theorem chars_scan? {input rest : List Char} {lexeme : Lexeme}
    (scanned : scan? input = some (lexeme, rest)) :
    input = lexeme.chars ++ rest ∧ lexeme.chars ≠ [] := by
  unfold scan? at scanned
  split at scanned
  · cases scanned
  · rename_i c tail
    split at scanned
    · cases scanned
      simp [chars, List.takeWhile_append_dropWhile]
    · split at scanned
      · rename_i mark
        cases scanned
        simp [chars, mark, List.takeWhile_append_dropWhile]
      · split at scanned
        · obtain ⟨⟨ending, after⟩, endingScan, equal⟩ := Option.map_eq_some_iff.1 scanned
          cases equal
          exact chars_scanNewline? endingScan
        · obtain ⟨⟨content, after⟩, tokenScan, equal⟩ := Option.map_eq_some_iff.1 scanned
          cases equal
          exact chars_scanToken? tokenScan

theorem length_scan? {input rest : List Char} {lexeme : Lexeme}
    (scanned : scan? input = some (lexeme, rest)) : rest.length < input.length := by
  have parts := chars_scan? scanned
  have positive : 0 < lexeme.chars.length := List.length_pos_iff.2 parts.2
  rw [parts.1, List.length_append]
  omega

end Lexeme

/-- The lexemes of a text, up to the first place where none stands, and the text
from that place on. -/
def lexemes (input : List Char) : List Lexeme × List Char :=
  match _scanned : Lexeme.scan? input with
  | none => ([], input)
  | some (lexeme, rest) =>
    let (others, unread) := lexemes rest
    (lexeme :: others, unread)
termination_by input.length
decreasing_by exact Lexeme.length_scan? _scanned

end Stackline.Script
