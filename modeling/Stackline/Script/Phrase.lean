import Stackline.Grammar.Tree
import Stackline.Script.Lexeme
import Stackline.Script.Position

/-!
# Phrases

A phrase is a keyword with the tokens that follow it on its line. A source text
is a sequence of lines, each empty or one phrase; `phrases` checks that shape
over the whole text before any phrase is given a meaning, and reports the first
place where it fails.
-/

namespace Stackline.Script

/-- A keyword, where it stands, and the tokens after it. -/
structure Phrase where
  position : Position
  keyword : List Char
  arguments : List Token
  deriving DecidableEq, Repr

/-- The tree of a token. -/
def Token.tree : Token → Grammar.Tree Grammar.Rule
  | .word letters => .node .ident letters []
  | .number numeral => .node .number numeral.chars []
  | .quoted body => .node .string ('"' :: body ++ ['"']) [.node .text body []]

/-- The trees inside that of a phrase: its keyword and its arguments. -/
def Phrase.trees (phrase : Phrase) : List (Grammar.Tree Grammar.Rule) :=
  Token.tree (.word phrase.keyword) :: phrase.arguments.map Token.tree

/-- What could have stood at the place where a text leaves its shape. -/
inductive Expectation where
  /-- Nothing of the text is read yet. -/
  | script
  /-- The line is still empty. -/
  | keyword
  /-- The line has its keyword. -/
  | argument
  deriving DecidableEq, Repr

/-- The wording of an expectation. -/
def Expectation.message : Expectation → String
  | .script => "expected script"
  | .keyword => "expected EOI or ident"
  | .argument => "expected EOI, ident, number, or string"

/-- A place where a text leaves its shape. -/
structure Refusal where
  position : Position
  expectation : Expectation
  deriving DecidableEq, Repr

/-- Refuse the text at a place, where `current` is the phrase of the line. -/
def Refusal.of (position : Position) (current : Option Phrase) : Refusal where
  position := position
  expectation :=
    if current.isSome then .argument
    else if position = .start then .script
    else .keyword

/-- Group lexemes into phrases. `current` is the phrase of the line that is being
read, and `unread` the text after the last lexeme. -/
def group (position : Position) (current : Option Phrase) (unread : List Char) :
    List Lexeme → Except Refusal (List Phrase)
  | [] => if unread.isEmpty then .ok current.toList else .error (.of position current)
  | .blank spaces :: rest => group (position.advance spaces) current unread rest
  | .comment remark :: rest => group (position.advance ('#' :: remark)) current unread rest
  | .newline ending :: rest =>
    (group (position.advance ending) none unread rest).map (current.toList ++ ·)
  | .token token :: rest =>
    match current, token with
    | some phrase, token =>
      group (position.advance token.chars)
        (some { phrase with arguments := phrase.arguments ++ [token] }) unread rest
    | none, .word letters =>
      group (position.advance letters) (some ⟨position, letters, []⟩) unread rest
    | none, _ => .error (.of position none)

/-- The phrases of a source text, or the first place where it has another shape. -/
def phrases (source : List Char) : Except Refusal (List Phrase) :=
  let (read, unread) := lexemes source
  group .start none unread read

end Stackline.Script
