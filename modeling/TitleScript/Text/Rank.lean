/-!
# Rank in an increasing sequence

The tables of character properties are increasing sequences of code points, and every question
put to them is "how many entries are at or below this one". `rank` answers it by halving a
window, so a look-up in the longest table takes eleven comparisons.

The sequence is a function on indices with its length beside it, which lets one definition serve
a plain array of numbers and an array of records read through one field.

## Main definitions

* `rankWithin` — the search inside a window, by recursion on the number of halvings
* `rank` — the search over a whole sequence
* `isChain` — the check that every element of a list stands in a relation to the next

## Main statements

* `rank_eq` — the rank is the index that parts the entries at or below a number from those above
  it
* `pairwise_of_isChain` — for a transitive relation, checking neighbours is enough
-/

namespace TitleScript

/-! ### Order of a list -/

/-- Whether every element stands in the relation to the one behind it. -/
def isChain {α : Type} (r : α → α → Bool) : List α → Bool
  | a :: b :: l => r a b && isChain r (b :: l)
  | _ => true

/-- For a transitive relation, checking neighbours is enough. -/
theorem pairwise_of_isChain {α : Type} {r : α → α → Bool}
    (trans : ∀ a b c, r a b → r b c → r a c) {l : List α} (h : isChain r l) :
    l.Pairwise (r · ·) := by
  induction l with
  | nil => exact .nil
  | cons a l ih =>
    cases l with
    | nil => simp
    | cons b l =>
      simp only [isChain, Bool.and_eq_true] at h
      refine List.pairwise_cons.2 ⟨fun c hc => ?_, ih h.2⟩
      rcases List.mem_cons.1 hc with rfl | hc
      · exact h.1
      · exact trans a b c h.1 ((List.pairwise_cons.1 (ih h.2)).1 c hc)

/-! ### Search -/

/-- Halve the window `lo ≤ i < hi` at most `steps` times, keeping entries at or below `n` on its
left. -/
@[specialize]
def rankWithin (entry : Nat → Nat) (n : Nat) : (steps lo hi : Nat) → Nat
  | 0, lo, _ => lo
  | steps + 1, lo, hi =>
    if lo < hi then
      if entry ((lo + hi) / 2) ≤ n then rankWithin entry n steps ((lo + hi) / 2 + 1) hi
      else rankWithin entry n steps lo ((lo + hi) / 2)
    else lo

/-- The number of the first `size` entries that are at or below `n`, for increasing entries. -/
@[inline]
def rank (entry : Nat → Nat) (size n : Nat) : Nat :=
  rankWithin entry n (size.log2 + 1) 0 size

/-- A window with the cut at `k` inside it closes on `k`, given enough halvings. -/
theorem rankWithin_eq {entry : Nat → Nat} {n steps lo hi k : Nat} (hlo : lo ≤ k) (hhi : k ≤ hi)
    (below : ∀ i, lo ≤ i → i < k → entry i ≤ n) (above : ∀ i, k ≤ i → i < hi → n < entry i)
    (hsteps : hi - lo < Nat.pow 2 steps) : rankWithin entry n steps lo hi = k := by
  induction steps generalizing lo hi with
  | zero =>
    have hsteps : hi - lo < 1 := hsteps
    rw [rankWithin]
    omega
  | succ steps ih =>
    have hsteps : hi - lo < Nat.pow 2 steps * 2 := hsteps
    rw [rankWithin]
    split
    · split
      · have hk : (lo + hi) / 2 < k := by
          refine Nat.lt_of_not_le fun h => ?_
          have := above _ h (by omega)
          omega
        exact ih hk hhi (fun i h => below i (by omega)) above (by omega)
      · have hk : k ≤ (lo + hi) / 2 := by
          refine Nat.le_of_not_lt fun h => ?_
          have := below _ (by omega) h
          omega
        exact ih hlo hk below (fun i h h' => above i h (by omega)) (by omega)
    · omega

/-- The rank is the index that parts the entries at or below `n` from those above it. -/
theorem rank_eq {entry : Nat → Nat} {size n k : Nat} (hk : k ≤ size)
    (below : ∀ i, i < k → entry i ≤ n) (above : ∀ i, k ≤ i → i < size → n < entry i) :
    rank entry size n = k :=
  rankWithin_eq (Nat.zero_le k) hk (fun i _ => below i) above
    Nat.lt_log2_self

end TitleScript
