import TitleScript.Text.Rank

/-!
# Maps from characters to text

A case mapping moves most characters by a fixed distance, shared by a whole stretch of the
alphabet or by every second letter of one, and sends a few to several characters at once. A
`ScalarMap` lists such runs one behind another, so that no two of them interleave; a character
outside every run is its own image.

## Main definitions

* `ScalarMap.Image` — what a run does to a character
* `ScalarMap.Run` — equally spaced characters with one image rule
* `ScalarMap.image?`, `ScalarMap.image` — the text a character maps to
* `ScalarMap.imageOver` — the image under a map that adds to another

## Main statements

* `ScalarMap.run?_eq_some_iff` — the search finds a run exactly when it covers the character
-/

namespace TitleScript

namespace ScalarMap

/-- What a run does to its characters: move them all by one distance, or replace them. -/
inductive Image
  | shift (distance : Int)
  | text (codes : List Nat)

/-- The characters `first`, `first + stride`, … up to `last`, and their common image rule. -/
structure Run where
  first : Nat
  last : Nat
  stride : Nat
  image : Image

/-- Whether the code point is one of the run's. -/
def Run.covers (r : Run) (n : Nat) : Bool :=
  r.first ≤ n && n ≤ r.last && (n - r.first) % r.stride == 0

/-- Whether a run ends before another begins. -/
def Run.before (r s : Run) : Bool :=
  r.first ≤ r.last && r.last < s.first && s.first ≤ s.last

/-- The image of a code point the run covers. -/
def Image.apply (i : Image) (n : Nat) : List Char :=
  match i with
  | .shift distance => [Char.ofNat (n + distance).toNat]
  | .text codes => codes.map Char.ofNat

end ScalarMap

/-- A map from characters to text, as runs that lie one behind another. -/
structure ScalarMap where
  runs : Array ScalarMap.Run
  ordered : isChain ScalarMap.Run.before runs.toList := by decide +kernel

namespace ScalarMap

/-- The last run that starts at or below the code point, if it covers it. No other run can. -/
def run? (m : ScalarMap) (n : Nat) : Option Run :=
  m.runs[rank (fun i => (m.runs[i]?).elim 0 Run.first) m.runs.size n - 1]?.filter (·.covers n)

/-- The text a character is sent to by a run that covers it. -/
def image? (m : ScalarMap) (c : Char) : Option (List Char) :=
  (m.run? c.toNat).map (·.image.apply c.toNat)

/-- The text a character maps to: itself when no run covers it. -/
def image (m : ScalarMap) (c : Char) : List Char :=
  (m.image? c).getD [c]

/-- The text a character maps to under a map that adds to another. -/
def imageOver (added m : ScalarMap) (c : Char) : List Char :=
  (added.image? c).getD (m.image c)

/-! ### The search finds every run -/

theorem pairwise_runs (m : ScalarMap) : m.runs.toList.Pairwise (Run.before · ·) :=
  pairwise_of_isChain (by grind [Run.before]) m.ordered

theorem run?_of_covers {m : ScalarMap} {n i : Nat} (hi : i < m.runs.size)
    (h : (m.runs[i]).covers n) : m.run? n = some m.runs[i] := by
  have hpair := List.pairwise_iff_getElem.1 m.pairwise_runs
  have hn : (m.runs[i]).first ≤ n ∧ n ≤ (m.runs[i]).last := by grind [Run.covers]
  have hrank : rank (fun i => (m.runs[i]?).elim 0 Run.first) m.runs.size n = i + 1 := by
    refine rank_eq hi (fun j hj => ?_) (fun j hj hjs => ?_)
    · have hjs : j < m.runs.size := by omega
      rw [Array.getElem?_eq_getElem hjs, Option.elim_some]
      rcases Nat.lt_or_eq_of_le (Nat.le_of_lt_succ hj) with hji | rfl
      · have := hpair j i (by simpa using hjs) (by simpa using hi) hji
        simp only [Array.getElem_toList] at this
        grind [Run.before]
      · exact hn.1
    · rw [Array.getElem?_eq_getElem hjs, Option.elim_some]
      have := hpair i j (by simpa using hi) (by simpa using hjs) hj
      simp only [Array.getElem_toList] at this
      grind [Run.before]
  rw [run?, hrank, Nat.add_sub_cancel, Array.getElem?_eq_getElem hi]
  simp [h]

/-- The search finds a run exactly when it is one of the map's and covers the code point. -/
theorem run?_eq_some_iff {m : ScalarMap} {n : Nat} {r : Run} :
    m.run? n = some r ↔ r ∈ m.runs ∧ r.covers n := by
  constructor
  · intro h
    obtain ⟨h, hr⟩ := Option.filter_eq_some_iff.1 h
    exact ⟨Array.mem_of_getElem? h, hr⟩
  · rintro ⟨h, hr⟩
    obtain ⟨i, hi, rfl⟩ := Array.mem_iff_getElem.1 h
    exact run?_of_covers hi hr

end ScalarMap

end TitleScript
