import Stackline.Text.Joint

/-!
# Clusters

A text as the sequence of its clusters: a letter with its marks, a syllable, a
conjunct, a flag, a pictograph with what is joined to it. Whether a character
goes on with the cluster before it depends on that cluster alone, because every
rule that looks back further than one character looks back through characters
that stay together.
-/

namespace Stackline.Text

/-- Whether a cluster, its last joint first, ends in a pictograph and marks. -/
def endsInPictograph (cluster : List Joint) : Bool :=
  (cluster.dropWhile Joint.isMark).head? = some .pictograph

/-- Whether a cluster, its last joint first, ends in an odd number of regional
letters, so that one of them is still without its partner. -/
def endsInHalfFlag (cluster : List Joint) : Bool :=
  (cluster.takeWhile (· = .regional)).length % 2 = 1

/-- Whether a cluster, its last joint first, ends in a consonant and a linking
mark, with other marks between and after them. -/
def endsInLink (cluster : List Joint) : Bool :=
  (cluster.takeWhile Joint.isInsideConjunct).contains .linkingMark &&
    (cluster.dropWhile Joint.isInsideConjunct).head? = some .consonant

/-- Whether a part of a syllable goes on with the part before it. -/
def joinsSyllable : Joint → Joint → Bool
  | .leadingJamo, .leadingJamo => true
  | .leadingJamo, .vowelJamo => true
  | .leadingJamo, .openSyllable => true
  | .leadingJamo, .closedSyllable => true
  | .openSyllable, .vowelJamo => true
  | .openSyllable, .trailingJamo => true
  | .vowelJamo, .vowelJamo => true
  | .vowelJamo, .trailingJamo => true
  | .closedSyllable, .trailingJamo => true
  | .trailingJamo, .trailingJamo => true
  | _, _ => false

/-- Whether a character goes on with a cluster, whose last joint comes first. -/
def joins (cluster : List Joint) (next : Joint) : Bool :=
  match cluster with
  | [] => true
  | last :: earlier =>
    if last.isControl || next.isControl then last = .carriageReturn && next = .lineFeed
    else
      next.isMark || next = .joiner || next = .spacingMark || last = .prepended ||
        joinsSyllable last next ||
        (next = .consonant && endsInLink cluster) ||
        (next = .pictograph && last = .joiner && endsInPictograph earlier) ||
        (next = .regional && endsInHalfFlag cluster)

/-- The clusters of a text that goes on after the open cluster. The open cluster
and its joints are held with the last one first. -/
def clustersAfter : List Char → List Joint → List Char → List (List Char)
  | [], _, [] => []
  | c :: earlier, _, [] => [(c :: earlier).reverse]
  | cluster, joints, c :: rest =>
    let joint := Joint.ofChar c
    if joins joints joint then clustersAfter (c :: cluster) (joint :: joints) rest
    else cluster.reverse :: clustersAfter [c] [joint] rest

/-- The clusters of a text, in order. -/
def clusters (cs : List Char) : List (List Char) :=
  clustersAfter [] [] cs

/-- Nothing is lost or added after the open cluster. -/
theorem flatten_clustersAfter (cluster : List Char) (joints : List Joint) (rest : List Char) :
    (clustersAfter cluster joints rest).flatten = cluster.reverse ++ rest := by
  induction rest generalizing cluster joints with
  | nil => cases cluster <;> simp [clustersAfter]
  | cons c rest ih =>
    rw [clustersAfter]
    split
    · simp [ih]
    · simp [ih]

/-- A text is the concatenation of its clusters. -/
@[simp] theorem flatten_clusters (cs : List Char) : (clusters cs).flatten = cs := by
  simp [clusters, flatten_clustersAfter]

example : clusters "ae\u0301\r\nb".toList = [['a'], ['e', '\u0301'], ['\r', '\n'], ['b']] := by
  decide

end Stackline.Text
