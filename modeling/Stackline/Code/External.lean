import Stackline.Code.Spelling

/-!
# External functions

The functions for output and input that a module calls but does not define. Each
one that is called is declared once, in the order of the first calls.
-/

namespace Stackline.Code

/-- A function that is defined elsewhere. -/
inductive External where
  | printf
  | scanf
  deriving DecidableEq, Repr

namespace External

/-- The name of an external function. -/
def symbol : External → String
  | .printf => "printf"
  | .scanf => "scanf"

/-- The declaration of an external function. -/
def declaration (external : External) (pointers : Pointers) : String :=
  "declare i32 @" ++ external.symbol ++ "(" ++ pointers.toBytes ++ ", ...)"

end External

/-- The external functions of a module, in the order of their first calls. -/
structure Externals where
  required : List External
  deriving DecidableEq, Repr

namespace Externals

/-- No external functions. -/
def empty : Externals :=
  ⟨[]⟩

/-- Add an external function, unless it is there. -/
def require (externals : Externals) (external : External) : Externals :=
  if external ∈ externals.required then externals else ⟨externals.required ++ [external]⟩

end Externals

end Stackline.Code
