import Stackline.Files.FileSystem

/-!
# Dialogues

Work that reads and writes files on the way to its result, as a value: each
request waits for its answer and then goes on. A dialogue is held with a file
system by `Dialogue.run`; the same dialogue can be held with a real disk.
-/

namespace Stackline.Files

/-- A result, or a request with what follows its answer. -/
inductive Dialogue (α : Type) where
  | done (result : α)
  | read (path : String) (next : Except FileError ByteArray → Dialogue α)
  | write (path : String) (content : ByteArray) (next : Except FileError Unit → Dialogue α)

namespace Dialogue

variable {α β : Type}

/-- Go on with the result of a dialogue. -/
def andThen : Dialogue α → (α → Dialogue β) → Dialogue β
  | .done result, next => next result
  | .read path answer, next => .read path fun content => (answer content).andThen next
  | .write path content answer, next =>
    .write path content fun written => (answer written).andThen next

instance : Monad Dialogue where
  pure := .done
  bind := .andThen

/-- Ask for the text of a file. -/
def readText (path : String) : Dialogue (Except FileError String) :=
  .read path fun
    | .error error => .done (.error error)
    | .ok content =>
      match String.fromUTF8? content with
      | some text => .done (.ok text)
      | none => .done (.error .notText)

/-- Ask for a text to be written to a file. -/
def writeText (path text : String) : Dialogue (Except FileError Unit) :=
  .write path text.toUTF8 .done

/-- Hold a dialogue with a file system. -/
def run (system : FileSystem) : Dialogue α → α × FileSystem
  | .done result => (result, system)
  | .read path next => (next (system.read path)).run system
  | .write path content next =>
    match system.write path content with
    | .ok changed => (next (.ok ())).run changed
    | .error error => (next (.error error)).run system

end Dialogue

end Stackline.Files
