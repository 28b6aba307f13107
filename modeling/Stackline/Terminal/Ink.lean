import Stackline.Terminal.Color

/-!
# Ink

How text is decorated on its way to a terminal. Plain ink leaves text as it is;
ansi ink wraps it in escape sequences, so decorations nest.
-/

namespace Stackline.Terminal

/-- Whether decorations are written. -/
inductive Ink where
  | plain
  | ansi
  deriving DecidableEq, Repr

namespace Ink

/-- Wrap a text in the escape sequences of a graphic rendition. -/
def wrap (ink : Ink) (rendition text : String) : String :=
  match ink with
  | .plain => text
  | .ansi => "\x1b[" ++ rendition ++ "m" ++ text ++ "\x1b[0m"

/-- Write a text in a colour. -/
def color (ink : Ink) (color : Color) (text : String) : String :=
  ink.wrap ("38;2;" ++ toString color.r.toNat ++ ";" ++ toString color.g.toNat ++ ";" ++
    toString color.b.toNat) text

/-- Write a text in bold. -/
def bold (ink : Ink) (text : String) : String :=
  ink.wrap "1" text

/-- Write a text dimmed. -/
def dim (ink : Ink) (text : String) : String :=
  ink.wrap "2" text

/-- Write a text in bold in a colour. -/
def boldColor (ink : Ink) (color : Color) (text : String) : String :=
  ink.bold (ink.color color text)

/-- Write a text in a colour that is given by its text. A colour that cannot be
read leaves the text as it is, except that a split character stays an error. -/
def colorNamed (ink : Ink) (spec text : String) : Except ColorError String :=
  match Color.parse spec with
  | .ok color => .ok (ink.color color text)
  | .error .splitCharacter => .error .splitCharacter
  | .error _ => .ok text

end Ink

end Stackline.Terminal
