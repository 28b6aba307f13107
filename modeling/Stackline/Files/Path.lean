/-!
# Paths

A path is a text with slashes. Its file name is the last component, where empty
components and single dots behind it do not count; a path that ends in a double
dot, or has nothing but such components, has no file name.
-/

namespace Stackline.Files

/-- A path with a file name: what stands before the name, the name, and whether
something stands behind it. -/
structure Named where
  directory : List Char
  name : List Char
  trailing : Bool
  deriving DecidableEq, Repr

/-- Drop the components behind the file name, from a path that is read backwards. -/
def dropTrailing : List Char → List Char
  | '/' :: rest => dropTrailing rest
  | '.' :: '/' :: rest => dropTrailing rest
  | reversed => reversed

/-- The file name of a path and its surroundings. -/
def Named.of? (path : List Char) : Option Named :=
  let reversed := path.reverse
  let kept := dropTrailing reversed
  let name := (kept.takeWhile (· ≠ '/')).reverse
  if name = [] ∨ name = ['.'] ∨ name = ['.', '.'] then none
  else some ⟨(kept.dropWhile (· ≠ '/')).reverse, name, kept.length ≠ reversed.length⟩

/-- A file name without its extension, and the extension. The extension is what
follows the last dot, unless that dot comes first. -/
def splitExtension (name : List Char) : List Char × Option (List Char) :=
  let reversed := name.reverse
  match reversed.dropWhile (· ≠ '.') with
  | '.' :: stem@(_ :: _) => (stem.reverse, some (reversed.takeWhile (· ≠ '.')).reverse)
  | _ => (name, none)

/-- Put an extension in the place of the one that a path has, and drop what
stands behind its file name. The old extension is cut first and its dot left
standing: where the path then ends in a double dot it names a parent directory,
and stays so. -/
def withExtension (path extension : String) : String :=
  match Named.of? path.toList with
  | none => path
  | some named =>
    let (stem, old) := splitExtension named.name
    let ending := if stem = ['.'] ∧ old.isSome ∧ !named.trailing then "" else extension
    String.ofList (named.directory ++ stem) ++ "." ++ ending

end Stackline.Files
