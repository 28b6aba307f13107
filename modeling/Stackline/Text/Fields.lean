/-!
# Fields and columns

Cutting a character sequence at a separator, and padding a text to a column
width. Widths count characters, and a text that is already wide enough is left
as it is.
-/

namespace Stackline.Text

/-- The pieces between separators. There is one more piece than separators, so
the empty sequence has one empty piece. -/
def fields (separator : Char) : List Char → List (List Char)
  | [] => [[]]
  | c :: rest =>
    if c = separator then [] :: fields separator rest
    else
      match fields separator rest with
      | [] => [[c]]
      | first :: others => (c :: first) :: others

theorem fields_ne_nil (separator : Char) (cs : List Char) : fields separator cs ≠ [] := by
  unfold fields
  split
  · simp
  · split
    · simp
    · split <;> simp

/-- A separator cuts what is before it from what is behind it. -/
theorem fields_append (separator : Char) (before behind : List Char) :
    fields separator (before ++ separator :: behind) =
      fields separator before ++ fields separator behind := by
  induction before with
  | nil => simp [fields]
  | cons c rest ih =>
    by_cases cut : c = separator
    · simp [fields, cut, ih]
    · obtain ⟨first, others, pieces⟩ := List.exists_cons_of_ne_nil (fields_ne_nil separator rest)
      simp [fields, cut, ih, pieces]

/-- Without a separator there is one piece. -/
theorem fields_of_not_mem {separator : Char} {cs : List Char} (whole : separator ∉ cs) :
    fields separator cs = [cs] := by
  induction cs with
  | nil => rfl
  | cons c rest ih =>
    obtain ⟨first, others⟩ := not_or.mp (mt List.mem_cons.mpr whole)
    simp [fields, Ne.symm first, ih others]

/-- The lines of a text: the pieces between line feeds, where a line feed at the
very end opens no further line. -/
def lines (cs : List Char) : List (List Char) :=
  let pieces := fields '\n' cs
  if pieces.getLast? = some [] then pieces.dropLast else pieces

/-- A run of spaces. -/
def spaces (count : Nat) : String :=
  String.ofList (List.replicate count ' ')

/-- Fill a text with spaces on its right up to a width. -/
def padRight (width : Nat) (text : String) : String :=
  text ++ spaces (width - text.length)

/-- Fill a text with spaces on its left up to a width. -/
def padLeft (width : Nat) (text : String) : String :=
  spaces (width - text.length) ++ text

end Stackline.Text
