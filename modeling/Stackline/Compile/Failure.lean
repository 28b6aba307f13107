import Stackline.Builder.State
import Stackline.Diagnostic

/-!
# Failures

How work can end without a result. A diagnostic tells the user what to mend; a
fault is a condition that stops the program on the spot, with no diagnostic for
it. What was going on when a failure arose is told before it, the outermost
first.
-/

namespace Stackline.Compile

open Stackline.Code

/-- A condition that stops the program on the spot. -/
inductive Fault where
  | noConversion (source target : Kind)
  | oversizedMargin
  | cutCharacter
  deriving DecidableEq, Repr

/-- The wording of a fault. -/
def Fault.message : Fault → String
  | .noConversion source target =>
    "internal error: entered unreachable code: no conversion between " ++ source.spelling ++
      " and " ++ target.spelling
  | .oversizedMargin => "capacity overflow"
  | .cutCharacter => "assertion failed: self.is_char_boundary(new_len)"

/-- Why work ended. -/
inductive Failure where
  | diagnosed (diagnostic : Diagnostic)
  | other (message : String)
  | stopped (fault : Fault)
  deriving DecidableEq, Repr

namespace Failure

/-- The wording of a failure on one line. -/
def summary : Failure → String
  | .diagnosed diagnostic => diagnostic.cause.summary
  | .other message => message
  | .stopped fault => fault.message

/-- Replace the remark of a diagnostic. -/
def withNote (note : String) : Failure → Failure
  | .diagnosed diagnostic => .diagnosed (diagnostic.withNote note)
  | failure => failure

/-- The failure of a step of the builder. -/
def ofBuildError : BuildError → Failure
  | .unknownType name => .diagnosed (.of (.unknownType name))
  | .unknownVariable name => .diagnosed (.of (.unknownVariable name))
  | .noMatchingOperator operator left right =>
    .diagnosed (.of (.noMatchingOperator operator.symbol left.spelling right.spelling))
  | .noConversion source target => .stopped (.noConversion source target)

end Failure

/-- A failure and what was going on. -/
structure Trouble where
  contexts : List String
  failure : Failure
  deriving DecidableEq, Repr

namespace Trouble

/-- A failure about which nothing more is told. -/
def of (failure : Failure) : Trouble :=
  ⟨[], failure⟩

/-- Tell what was going on around a failure. -/
def within (trouble : Trouble) (context : String) : Trouble :=
  { trouble with contexts := context :: trouble.contexts }

/-- The wording of a failure behind what was going on. -/
def chain (trouble : Trouble) : String :=
  ": ".intercalate (trouble.contexts ++ [trouble.failure.summary])

end Trouble

end Stackline.Compile
