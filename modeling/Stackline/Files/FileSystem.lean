import Stackline.Text.Fields

/-!
# File systems

Directories and files as a table from locations to contents. A location is the
list of names from the root, so two paths that lead to one place share an entry.
Paths are walked component by component: every component before the last has to
be a directory that exists. Names and paths are bounded in bytes; the bound on a
path is checked before the walk, the bound on a name when the walk comes to it.
A file can be read only: it is there to be read, and cannot be written.
-/

namespace Stackline.Files

/-- Why a file cannot be read or written. -/
inductive FileError where
  | notFound
  | isDirectory
  | notDirectory
  | permissionDenied
  | notText
  | nameTooLong
  | nulInName
  | other (reason : String)
  deriving DecidableEq, Repr

/-- The wording of a file error. -/
def FileError.message : FileError → String
  | .notFound => "No such file or directory (os error 2)"
  | .isDirectory => "Is a directory (os error 21)"
  | .notDirectory => "Not a directory (os error 20)"
  | .permissionDenied => "Permission denied (os error 13)"
  | .notText => "stream did not contain valid UTF-8"
  | .nameTooLong => "File name too long (os error 36)"
  | .nulInName => "file name contained an unexpected NUL byte"
  | .other reason => reason

/-- The names on the way from the root. -/
abbrev Location :=
  List String

/-- What stands at a location. -/
inductive Entry where
  | file (content : ByteArray)
  | directory

instance : DecidableEq Entry
  | .file first, .file second =>
    match ByteArray.instDecidableEq first second with
    | isTrue same => isTrue (by rw [same])
    | isFalse different => isFalse fun same => different (Entry.file.inj same)
  | .file _, .directory => isFalse nofun
  | .directory, .file _ => isFalse nofun
  | .directory, .directory => isTrue rfl

/-- The entries by their locations, the location where relative paths start, and the
locations where no file can be written. -/
structure FileSystem where
  entries : List (Location × Entry)
  workingDirectory : Location
  readOnly : List Location
  deriving DecidableEq

/-- The components of a path. -/
def components (path : String) : List String :=
  (Text.fields '/' path.toList).map String.ofList

/-- The most bytes that a name can have. -/
def maxNameSize : Nat :=
  255

/-- The most bytes that a path can have. -/
def maxPathSize : Nat :=
  4095

/-- Why a path leads nowhere, whatever the file system holds. -/
def pathError? (path : String) : Option FileError :=
  if path.toList.contains '\x00' then some .nulInName
  else if maxPathSize < path.utf8ByteSize then some .nameTooLong
  else if path = "" then some .notFound
  else none

/-- The location of a name in a directory. -/
def Location.named (directory : Location) (name : String) : Except FileError Location :=
  if maxNameSize < name.utf8ByteSize then .error .nameTooLong else .ok (directory ++ [name])

namespace FileSystem

/-- An empty directory to work in. Its name and the name of the directory around
it hold a slash, so no path spells them: a path that climbs out does not come
back. -/
def workplace : Location :=
  ["/around", "/work"]

/-- The directories at the root of a system. -/
def rootDirectories : List String :=
  ["bin", "boot", "dev", "etc", "home", "lib", "media", "mnt", "opt", "proc", "root", "run", "sbin",
    "srv", "sys", "tmp", "usr", "var"]

/-- A file system with an empty directory to work in. Of the rest it knows the
directories at the root and the null device, which reads as an empty file. -/
def fresh : FileSystem where
  entries :=
    (workplace, .directory) :: (["/around"], .directory) ::
      (["dev", "null"], .file ByteArray.empty) ::
      rootDirectories.map fun name => ([name], .directory)
  workingDirectory := workplace
  readOnly := []

/-- The entry at a location. The root is always a directory. -/
def entry? (system : FileSystem) (location : Location) : Option Entry :=
  if location = [] then some .directory else system.entries.lookup location

/-- Set the entry at a location. -/
def setEntry (system : FileSystem) (location : Location) (entry : Entry) : FileSystem :=
  { system with
    entries := (location, entry) :: system.entries.filter (·.1 ≠ location) }

/-- Go from a directory through one component to a directory. -/
def enter (system : FileSystem) (location : Location) (component : String) :
    Except FileError Location :=
  if component = "" ∨ component = "." then .ok location
  else if component = ".." then .ok location.dropLast
  else do
    let inner ← location.named component
    match system.entry? inner with
    | none => .error .notFound
    | some (.file _) => .error .notDirectory
    | some .directory => .ok inner

/-- The directory where a path with these components starts. -/
def origin (system : FileSystem) (path : List String) : Location :=
  if path.head? = some "" then [] else system.workingDirectory

/-- Go through components to a directory. -/
def walk (system : FileSystem) (location : Location) (path : List String) :
    Except FileError Location :=
  path.foldlM (system.enter) location

/-- A component that stands for a directory wherever it occurs. -/
def isDirectoryName (component : String) : Bool :=
  component = "" || component = "." || component = ".."

/-- The content at a location, if a file stands there. -/
def contentAt (system : FileSystem) (location : Location) : Except FileError ByteArray :=
  match system.entry? location with
  | none => .error .notFound
  | some .directory => .error .isDirectory
  | some (.file content) => .ok content

/-- The location of a file that can be read. A path whose last component stands
for a directory leads to no file. -/
def source (system : FileSystem) (path : String) : Except FileError Location :=
  match pathError? path with
  | some error => .error error
  | none => do
    let parts := components path
    let directory ← system.walk (system.origin parts) parts.dropLast
    let name := parts.getLastD ""
    if isDirectoryName name then .error .isDirectory else directory.named name

/-- Read the bytes of a file. -/
def read (system : FileSystem) (path : String) : Except FileError ByteArray :=
  match system.source path with
  | .error error => .error error
  | .ok location => system.contentAt location

/-- The components of a path without the empty ones at its end. -/
def dropEmptyEnd (parts : List String) : List String :=
  (parts.reverse.dropWhile (· = "")).reverse

/-- The location of a file that can be written. A path that ends in a slash is
taken for a directory, whatever stands there. -/
def target (system : FileSystem) (path : String) : Except FileError Location :=
  match pathError? path with
  | some error => .error error
  | none => do
    let parts := components path
    let kept := dropEmptyEnd parts
    let directory ← system.walk (system.origin parts) kept.dropLast
    let name := kept.getLastD ""
    if isDirectoryName name ∨ kept.length ≠ parts.length then .error .isDirectory
    else do
      let location ← directory.named name
      if system.entry? location = some .directory then .error .isDirectory
      else if location ∈ system.readOnly then .error .permissionDenied
      else .ok location

/-- Write a file, in the place of an earlier one. -/
def write (system : FileSystem) (path : String) (content : ByteArray) :
    Except FileError FileSystem :=
  (system.target path).map fun location => system.setEntry location (.file content)

/-- Make a directory, with the directories on the way to it. -/
def makeDirectory (system : FileSystem) (path : String) : FileSystem :=
  let parts := components path
  let step := fun (state : FileSystem × Location) component =>
    match state.1.enter state.2 component with
    | .ok location => (state.1, location)
    | .error _ =>
      let location := state.2 ++ [component]
      (state.1.setEntry location .directory, location)
  (parts.foldl step (system, system.origin parts)).1

/-- The files below the working directory, by the paths that lead to them from
there. -/
def files (system : FileSystem) : List (String × ByteArray) :=
  system.entries.filterMap fun (location, entry) =>
    match entry with
    | .directory => none
    | .file content =>
      if system.workingDirectory.isPrefixOf location then
        some ("/".intercalate (location.drop system.workingDirectory.length), content)
      else none

end FileSystem

end Stackline.Files
