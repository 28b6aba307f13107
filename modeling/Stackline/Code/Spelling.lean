import Stackline.Code.Pool
import Stackline.Code.Kind

/-!
# Spellings

Choices that change how a module is spelled and nothing else: the name of its
function, how pointers are written, a target line, and the width of the margin.
-/

namespace Stackline.Code

/-- How pointer types are written. -/
inductive Pointers where
  /-- A pointer names what it points to. -/
  | typed
  /-- All pointers are written alike. -/
  | untyped
  deriving DecidableEq, Repr

namespace Pointers

/-- The type of a pointer to a kind. -/
def toKind (pointers : Pointers) (kind : Kind) : String :=
  match pointers with
  | .typed => kind.spelling ++ "*"
  | .untyped => "ptr"

/-- The type of a pointer to bytes. -/
def toBytes : Pointers → String
  | .typed => "i8*"
  | .untyped => "ptr"

/-- The first byte of a pooled text, as an argument with its type. -/
def toText (pointers : Pointers) (pooled : Pooled) : String :=
  match pointers with
  | .typed =>
    let array := "[" ++ toString pooled.size ++ " x i8]"
    "i8* getelementptr inbounds (" ++ array ++ ", " ++ array ++ "* " ++ pooled.symbol ++
      ", i64 0, i64 0)"
  | .untyped => "ptr " ++ pooled.symbol

/-- The type of the functions for input and output: a text, then any arguments. -/
def variadic (pointers : Pointers) : String :=
  "i32 (" ++ pointers.toBytes ++ ", ...)"

end Pointers

/-- The spelling of a module. -/
structure Spelling where
  entry : String := "main"
  pointers : Pointers := .typed
  triple : Option String := none
  indent : Nat := 2
  deriving DecidableEq, Repr

end Stackline.Code
