import Stackline.Proofs.Grammar.Expression
import Stackline.Script.Phrase

/-!
# The grammar of scripts

Lines of tokens, with blanks and comments between them. Tokens hold no layout of their
own: between the parts of a token nothing is skipped.
-/

namespace Stackline.Grammar

open Stackline.Script (Token Phrase)

namespace Rule

/-- Any character. -/
def any : Expr Rule :=
  .one fun _ => true

/-- Any character that does not end a line. -/
def inLine : Expr Rule :=
  .sequence (.forbidden (.rule .newline)) any

/-- A character of a quoted text that stands for itself. -/
def plain : Expr Rule :=
  .sequence (.forbidden (.choice (.literal ['"']) (.choice (.literal ['\\']) (.rule .newline)))) any

/-- A backslash and the character that it takes with it. -/
def escape : Expr Rule :=
  .sequence (.literal ['\\']) inLine

/-- One or more digits. -/
def digits : Expr Rule :=
  .repeatedOnce (.one Char.isDigit)

/-- The definition of a rule. -/
def definition : Rule → Expr Rule
  | .whitespace => .choice (.literal [' ']) (.literal ['\t'])
  | .comment => .sequence (.literal ['#']) (.repeated inLine)
  | .newline => .choice (.literal ['\n']) (.choice (.literal ['\r', '\n']) (.literal ['\r']))
  | .ident =>
    .sequence (.choice (.one Char.isAlpha) (.literal ['_']))
      (.repeated (.choice (.one Char.isAlphanum) (.literal ['_'])))
  | .number =>
    .sequence (.optional (.literal ['-'])) (.sequence digits (.sequence
      (.optional (.sequence (.literal ['.']) digits))
      (.optional (.sequence (.choice (.literal ['e']) (.literal ['E']))
        (.sequence (.optional (.choice (.literal ['-']) (.literal ['+']))) digits)))))
  | .string => .sequence (.literal ['"']) (.sequence (.rule .text) (.literal ['"']))
  | .text => .repeated (.choice plain escape)
  | .arg => .choice (.rule .string) (.choice (.rule .number) (.rule .ident))
  | .statement => .sequence (.rule .ident) (.repeated (.rule .arg))
  | .endOfInput => .endOfInput
  | .script =>
    .sequence .startOfInput (.sequence
      (.repeated (.sequence (.optional (.rule .statement)) (.rule .newline)))
      (.sequence (.optional (.rule .statement)) (.rule .endOfInput)))

/-- How a rule appears in trees. -/
def mode : Rule → Mode
  | .whitespace => .silent
  | .comment => .silent
  | .newline => .silent
  | .ident => .atomic
  | .number => .atomic
  | .string => .normal
  | .text => .atomic
  | .arg => .silent
  | .statement => .normal
  | .endOfInput => .normal
  | .script => .normal

/-- Whether layout is skipped between the parts of a rule. -/
def skips : Rule → Bool
  | .arg => true
  | .statement => true
  | .script => true
  | _ => false

/-- A run of blanks and comments. -/
def layout : Expr Rule :=
  .sequence (.repeated (.rule .whitespace))
    (.repeated (.sequence (.rule .comment) (.repeated (.rule .whitespace))))

end Rule

/-- The grammar of scripts. -/
def scripts : Rulebook Rule :=
  ⟨Rule.definition, Rule.mode, Rule.layout, Rule.skips⟩

/-- The rule and the text of a tree. -/
def Tree.label {ρ : Type} : Tree ρ → ρ × List Char
  | .node rule text _ => (rule, text)

/-- The tokens of a statement. -/
def Tree.statement? : Tree Rule → Option (List (Rule × List Char))
  | .node .statement _ children => some (children.map Tree.label)
  | _ => none

/-- The trees inside a statement. -/
def Tree.parts? : Tree Rule → Option (List (Tree Rule))
  | .node .statement _ children => some children
  | _ => none

/-- The tokens of the statements of a script. -/
def Tree.statements : Tree Rule → List (List (Rule × List Char))
  | .node _ _ children => children.filterMap Tree.statement?

/-- The rule and the text of a token. -/
def tokenLabel : Token → Rule × List Char
  | .word letters => (.ident, letters)
  | .number numeral => (.number, numeral.chars)
  | .quoted body => (.string, '"' :: body ++ ['"'])

/-- The tokens of a phrase. -/
def phraseLabels (phrase : Phrase) : List (Rule × List Char) :=
  (.ident, phrase.keyword) :: phrase.arguments.map tokenLabel

end Stackline.Grammar
