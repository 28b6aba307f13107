/-!
# Trees of matches

What a grammar finds in a text. The match of a rule covers a piece of the text and
holds the matches of rules inside it, in order.
-/

namespace Stackline.Grammar

/-- The match of a rule: the text it covers, and the matches of rules inside. -/
inductive Tree (ρ : Type) where
  | node (rule : ρ) (text : List Char) (children : List (Tree ρ))

namespace Tree

variable {ρ : Type}

/-- The text that a match covers. -/
def text : Tree ρ → List Char
  | .node _ text _ => text

/-- The matches of rules inside. -/
def children : Tree ρ → List (Tree ρ)
  | .node _ _ children => children

end Tree

/-- The names of the rules of scripts. -/
inductive Rule where
  | whitespace
  | comment
  | newline
  | ident
  | number
  | string
  | text
  | arg
  | statement
  | endOfInput
  | script
  deriving DecidableEq, Repr

/-- The spelling of a rule in a message. -/
def Rule.name : Rule → String
  | .whitespace => "WHITESPACE"
  | .comment => "COMMENT"
  | .newline => "NEWLINE"
  | .ident => "ident"
  | .number => "number"
  | .string => "string"
  | .text => "text"
  | .arg => "arg"
  | .statement => "statement"
  | .endOfInput => "EOI"
  | .script => "script"

end Stackline.Grammar
