import Stackline.Code.Operand

/-!
# Listings

The lines of a function body in order. A line that produces a value takes the
next register, and registers are handed out in no other way, so their numbers
run from one without a gap. The contents of a line are left open here.
-/

namespace Stackline.Code

/-- One line: with the register that takes its value, or without a value. -/
inductive Line (α : Type) where
  | value (id : Register) (content : α)
  | effect (content : α)
  deriving DecidableEq, Repr

namespace Line

variable {α : Type}

/-- The register that a line fills. -/
def register? : Line α → Option Register
  | .value id _ => some id
  | .effect _ => none

/-- The content of a line. -/
def content : Line α → α
  | .value _ content => content
  | .effect content => content

/-- The text of a line, from the text of its content. -/
def text (spell : α → String) : Line α → String
  | .value id content => registerText id ++ " = " ++ spell content
  | .effect content => spell content

end Line

/-- Lines in order, and the register that comes next. -/
structure Listing (α : Type) where
  lines : List (Line α)
  next : Register
  deriving DecidableEq, Repr

namespace Listing

variable {α : Type}

/-- The listing without lines. Register zero is the label of the body itself, so
the first value takes register one. -/
def empty : Listing α :=
  ⟨[], 1⟩

/-- Append a line that takes the next register. -/
def addValue (listing : Listing α) (content : α) : Register × Listing α :=
  (listing.next, ⟨listing.lines ++ [.value listing.next content], listing.next + 1⟩)

/-- Append a line without a value. -/
def addEffect (listing : Listing α) (content : α) : Listing α :=
  { listing with lines := listing.lines ++ [.effect content] }

/-- The lines that were appended since an earlier state of the listing. -/
def since (listing earlier : Listing α) : List (Line α) :=
  listing.lines.drop earlier.lines.length

end Listing

end Stackline.Code
