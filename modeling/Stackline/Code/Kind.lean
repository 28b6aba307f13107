/-!
# Numeric kinds

The four kinds of value that a program computes with. A kind fixes its spelling,
its width in memory and the conversion specification that the input and output
functions use for it.
-/

namespace Stackline.Code

/-- Whether a kind holds integers or floating-point numbers. -/
inductive Family where
  | integer
  | floating
  deriving DecidableEq, Repr

/-- A numeric kind. -/
inductive Kind where
  | i32
  | i64
  | f32
  | f64
  deriving DecidableEq, Repr

/-- The widest kind of a family. -/
def Family.widest : Family → Kind
  | .integer => .i64
  | .floating => .f64

namespace Kind

/-- Every kind, the narrower first. -/
def all : List Kind :=
  [.i32, .i64, .f32, .f64]

/-- The spelling of a kind in a module. -/
def spelling : Kind → String
  | .i32 => "i32"
  | .i64 => "i64"
  | .f32 => "float"
  | .f64 => "double"

/-- The width of a kind in bytes, which is also its alignment. -/
def bytes : Kind → Nat
  | .i32 => 4
  | .i64 => 8
  | .f32 => 4
  | .f64 => 8

/-- The family of a kind. -/
def family : Kind → Family
  | .i32 => .integer
  | .i64 => .integer
  | .f32 => .floating
  | .f64 => .floating

/-- The conversion specification that reads or writes a value of a kind. -/
def pattern : Kind → String
  | .i32 => "%d"
  | .i64 => "%ld"
  | .f32 => "%f"
  | .f64 => "%lf"

/-- The names by which a script may call a kind. -/
def names : Kind → List String
  | .i32 => ["int", "i32"]
  | .i64 => ["long", "i64"]
  | .f32 => ["float", "f32"]
  | .f64 => ["double", "f64"]

/-- The kind that a script calls by a name. -/
def named? (name : String) : Option Kind :=
  all.find? (·.names.contains name)

end Kind

end Stackline.Code
