import Stackline.Text.Bytes
import Stackline.Text.Cluster

/-!
# Typed lines

A line comes with the corrections that were made while it was typed: a backspace
takes back the cluster before it. Clusters are those of the line as it was typed,
and stay so when a correction brings other neighbours together.
-/

namespace Stackline.Console

/-- The character that takes back what was typed before it. -/
def backspace : Char :=
  '\x08'

/-- A line while it is typed: the characters that it holds, the last one first, and
the sizes of its clusters in bytes, the last one first. A size is itself a byte, so
that of a very long cluster is known up to a multiple of 256 only. -/
structure Draft where
  content : List Char
  sizes : List UInt8
  deriving DecidableEq, Repr

namespace Draft

/-- A line before anything is typed. -/
def empty : Draft :=
  ⟨[], []⟩

/-- Add a cluster at the end. -/
def add (draft : Draft) (cluster : List Char) : Draft :=
  ⟨cluster.reverse ++ draft.content, (Text.byteSize cluster).toUInt8 :: draft.sizes⟩

/-- Take back as many bytes as the last cluster has by its size. Nothing happens
at the start of a line; there is no draft if a character would be cut. -/
def takeBack (draft : Draft) : Option Draft :=
  match draft.sizes with
  | [] => some draft
  | size :: sizes =>
    (Text.takeBytes? size.toNat draft.content).map fun (_, content) => ⟨content, sizes⟩

/-- Type a cluster. -/
def type (draft : Draft) (cluster : List Char) : Option Draft :=
  if cluster = [backspace] then draft.takeBack else some (draft.add cluster)

/-- The text of a line. -/
def text (draft : Draft) : List Char :=
  draft.content.reverse

/-- Clusters that are no backspaces are all kept. -/
theorem foldlM_type {clusters : List (List Char)} (plain : [backspace] ∉ clusters)
    (draft : Draft) :
    (clusters.foldlM type draft).map text = some (draft.text ++ clusters.flatten) := by
  induction clusters generalizing draft with
  | nil => simp
  | cons cluster clusters ih =>
    obtain ⟨first, others⟩ := not_or.mp (mt List.mem_cons.mpr plain)
    simp [type, Ne.symm first, ih others, text, add]

end Draft

/-- What a line holds once its corrections are made, unless one of them would cut
a character. -/
def corrected (line : List Char) : Option (List Char) :=
  ((Text.clusters line).foldlM Draft.type Draft.empty).map Draft.text

/-- A line without a backspace is what it holds. -/
theorem corrected_of_not_mem {line : List Char} (plain : backspace ∉ line) :
    corrected line = some line := by
  have clustersPlain : [backspace] ∉ Text.clusters line := fun member =>
    plain (Text.flatten_clusters line ▸ List.mem_flatten.mpr ⟨_, member, List.mem_singleton_self _⟩)
  simp [corrected, Draft.foldlM_type clustersPlain, Draft.empty, Draft.text]

end Stackline.Console
