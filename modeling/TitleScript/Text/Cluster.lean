import TitleScript.Text.Cluster.Class
import TitleScript.Text.Segmenter

/-!
# User-perceived characters

Lengths, positions and widths in a script count what a reader sees as one character. The clusters
are the extended grapheme clusters of Unicode: a character stays in the cluster before it when the
classes of the two say so, and in three cases when more of the cluster does.

* A regional indicator joins a single one before it, so flags are pairs.
* A pictograph joins a joiner that follows a pictograph and its marks.
* A consonant joins marks that follow a consonant and contain a linker.

The state of the segmenter remembers what those three cases ask for.

## Main definitions

* `ClusterState.joins` — whether a character of a class stays in the cluster
* `Text.clusters` — the clusters of a text
* `Text.length` — their number
-/

namespace TitleScript

/-- How far a cluster has come towards tying its last consonant to the next one. -/
inductive Conjunct
  | none
  | consonant
  | linked
deriving DecidableEq, Repr

/-- What the rules need to know of a cluster that may go on. -/
structure ClusterState where
  /-- The class of the last character. -/
  last : ClusterClass
  /-- The cluster ends in an unpaired regional indicator. -/
  unpaired : Bool
  /-- The cluster ends in a pictograph with its marks, and perhaps one joiner after them. -/
  pictograph : Bool
  /-- The cluster ends in a consonant with its marks. -/
  conjunct : Conjunct

namespace ClusterState

/-! ### States -/

/-- The state after the first character of a cluster. -/
def start (k : ClusterClass) : ClusterState where
  last := k
  unpaired := k == .regional
  pictograph := k == .pictograph
  conjunct := if k = .consonant then .consonant else .none

/-- Progress of a conjunct after one more character. -/
def nextConjunct (t : Conjunct) : ClusterClass → Conjunct
  | .consonant => .consonant
  | .linker => if t = .none then .none else .linked
  | .mark | .joiner => t
  | _ => .none

/-- The state after one more character of the cluster. -/
def next (s : ClusterState) (k : ClusterClass) : ClusterState where
  last := k
  unpaired := k == .regional && !(s.last == .regional && s.unpaired)
  pictograph := k == .pictograph || (k.isExtending && s.last != .joiner && s.pictograph)
  conjunct := nextConjunct s.conjunct k

/-! ### The rules -/

/-- Whether jamo and syllables of these classes belong to one syllable block. -/
def joinsSyllable : ClusterClass → ClusterClass → Bool
  | .leadingJamo, .leadingJamo | .leadingJamo, .vowelJamo => true
  | .leadingJamo, .openSyllable | .leadingJamo, .closedSyllable => true
  | .openSyllable, .vowelJamo | .openSyllable, .trailingJamo => true
  | .vowelJamo, .vowelJamo | .vowelJamo, .trailingJamo => true
  | .closedSyllable, .trailingJamo | .trailingJamo, .trailingJamo => true
  | _, _ => false

/-- Whether a character of class `k` stays in the cluster. -/
def joins (s : ClusterState) (k : ClusterClass) : Bool :=
  if s.last == .carriageReturn && k == .lineFeed then true
  else if s.last.isSeparate || k.isSeparate then false
  else k.isExtending || k == .spacingMark || s.last == .prepended
    || joinsSyllable s.last k
    || (k == .regional && s.last == .regional && s.unpaired)
    || (k == .pictograph && s.last == .joiner && s.pictograph)
    || (k == .consonant && s.conjunct == .linked)

end ClusterState

namespace Text

/-- The rule for cutting a text into clusters. -/
def clusterSegmenter : Segmenter ClusterState where
  start c := .start (.ofChar c)
  advance s c _ := if s.joins (.ofChar c) then some (s.next (.ofChar c)) else none

/-- The clusters of a text, in order. -/
def clusters (cs : List Char) : List (List Char) :=
  clusterSegmenter.pieces cs

@[simp]
theorem clusters_nil : clusters [] = [] := rfl

@[simp]
theorem flatten_clusters (cs : List Char) : (clusters cs).flatten = cs :=
  clusterSegmenter.flatten_pieces cs

theorem ne_nil_of_mem_clusters {cs p : List Char} (hp : p ∈ clusters cs) : p ≠ [] :=
  clusterSegmenter.ne_nil_of_mem_pieces hp

/-- The number of clusters of a text. -/
def length (s : String) : Nat :=
  (clusters s.toList).length

-- An accent belongs to its letter, a flag is a pair, and a line end of two is one.
example : (clusters "e\u0301x\r\n🇩🇪🇫".toList).map List.length = [2, 1, 2, 2, 1] := by
  decide +kernel

end Text

end TitleScript
