import Stackline.Code.Kind

/-!
# Conversions

The instruction that carries a value from one kind to another. Between two kinds
of one family the widths decide; kinds of one family and one width need no
conversion and have none.
-/

namespace Stackline.Code

/-- A conversion between two kinds. -/
inductive Conversion where
  | signExtend
  | truncate
  | extend
  | round
  | integerToFloating
  | floatingToInteger
  deriving DecidableEq, Repr

namespace Conversion

/-- The mnemonic of a conversion. -/
def mnemonic : Conversion → String
  | .signExtend => "sext"
  | .truncate => "trunc"
  | .extend => "fpext"
  | .round => "fptrunc"
  | .integerToFloating => "sitofp"
  | .floatingToInteger => "fptosi"

/-- The conversion from one kind to another, unless they agree in family and
width. -/
def between? (source target : Kind) : Option Conversion :=
  match source.family, target.family with
  | .integer, .floating => some .integerToFloating
  | .floating, .integer => some .floatingToInteger
  | .integer, .integer =>
    if source.bytes < target.bytes then some .signExtend
    else if target.bytes < source.bytes then some .truncate
    else none
  | .floating, .floating =>
    if source.bytes < target.bytes then some .extend
    else if target.bytes < source.bytes then some .round
    else none

end Conversion

end Stackline.Code
