import TitleScript.Text.Rank

/-!
# Sets of characters

A character property holds on some stretches of the code points and fails on the stretches
between them. A `ScalarSet` therefore stores only its cuts, the code points at which membership
changes, in increasing order and starting outside the set: a code point belongs to it exactly when
an odd number of cuts lie at or below it.

## Main definitions

* `ScalarSet` — a set given by its cuts
* `ScalarSet.contains` — membership of a character

## Main statements

* `ScalarSet.contains_eq` — membership is the parity of the number of cuts at or below
-/

namespace TitleScript

/-- A set of characters, as the increasing code points at which membership changes. -/
structure ScalarSet where
  cuts : Array Nat
  increasing : isChain (· < ·) cuts.toList := by decide +kernel

namespace ScalarSet

/-- Whether an odd number of cuts lie at or below the character. -/
def contains (s : ScalarSet) (c : Char) : Bool :=
  rank (s.cuts.getD · 0) s.cuts.size c.toNat % 2 == 1

/-- In an increasing sequence the rank counts the entries at or below a number. -/
theorem rank_eq_countP {cuts : Array Nat} (h : cuts.toList.Pairwise (· < ·)) (n : Nat) :
    rank (cuts.getD · 0) cuts.size n = cuts.toList.countP (· ≤ n) := by
  obtain ⟨l⟩ := cuts
  have hrank : ∀ l : List Nat, l.Pairwise (· < ·) →
      (∀ i, i < l.countP (· ≤ n) → l.getD i 0 ≤ n) ∧
        ∀ i, l.countP (· ≤ n) ≤ i → i < l.length → n < l.getD i 0 := by
    intro l hl
    induction l with
    | nil => simp
    | cons a l ih =>
      obtain ⟨ha, hl⟩ := List.pairwise_cons.1 hl
      by_cases han : a ≤ n
      · refine ⟨fun i hi => ?_, fun i hi hil => ?_⟩
        · cases i with
          | zero => simpa using han
          | succ i =>
            have := (ih hl).1 i (by simpa [List.countP_cons, han] using hi)
            simpa using this
        · cases i with
          | zero => simp [han] at hi
          | succ i =>
            have := (ih hl).2 i (by simpa [List.countP_cons, han] using hi) (by simpa using hil)
            simpa using this
      · have hnone : l.countP (· ≤ n) = 0 := by
          simp only [List.countP_eq_zero, decide_eq_true_eq]
          intro b hb
          have := ha b hb
          omega
        refine ⟨fun i hi => ?_, fun i _ hil => ?_⟩
        · simp [han, hnone] at hi
        · cases i with
          | zero => simpa using han
          | succ i =>
            have := (ih hl).2 i (by omega) (by simpa using hil)
            simpa using this
  exact rank_eq List.countP_le_length (by simpa using (hrank l h).1) (by simpa using (hrank l h).2)

theorem pairwise_cuts (s : ScalarSet) : s.cuts.toList.Pairwise (· < ·) := by
  simpa using pairwise_of_isChain (by simp; omega) s.increasing

/-- A character belongs to the set when an odd number of cuts lie at or below it. -/
theorem contains_eq (s : ScalarSet) (c : Char) :
    s.contains c = (s.cuts.toList.countP (· ≤ c.toNat) % 2 == 1) := by
  rw [contains, rank_eq_countP s.pairwise_cuts]

-- The stretch from `a` to `z`, at its two ends and just outside them.
example : [0x60, 0x61, 0x7A, 0x7B].map (fun n => contains { cuts := #[0x61, 0x7B] } (Char.ofNat n))
    = [false, true, true, false] := by decide

end ScalarSet

end TitleScript
