import Mathlib.Order.Bounds.Basic
import TitleScript.Text.EditDistance

/-!
# The edit distance is a distance

The edit distance of two texts is the least number of changes that turn one into the other, where a
change inserts, deletes or replaces a character at any place. There is no end to the ways of
changing a text, and the computation looks at none of them: it compares the texts character by
character and never goes back.

Between the two stand alignments. In an alignment every character of one text stands above a
character of the other one or above a gap, and what does not match is counted. Changes that are made
one after another in any order leave an alignment that counts no more than their number, and an
alignment can be read as changes from left to right. The least count of an alignment follows from
those of shorter texts, and the rows of the computation hold just these numbers. They go by
beginnings where alignments go by ends, which makes no difference to changes.

## Main definitions

* `Text.Edits` — a number of changes turns one text into another
* `Text.Aligned` — an alignment of two texts
* `Text.alignmentCost` — the least count, by recursion on both texts

## Main results

* `Text.Aligned.edits`, `Text.Edits.exists_aligned` — alignments and changes
* `Text.editDistance_eq` — the rows hold the least counts
* `Text.isLeast_editDistance` — the distance is the least number of changes
-/

namespace TitleScript

namespace Text

/-! ### Changes and alignments -/

/-- The first text becomes the second one by `n` changes of a single character. -/
inductive Edits (xs : List Char) : Nat → List Char → Prop
  | unchanged : Edits xs 0 xs
  | insert {n : Nat} (before : List Char) {behind : List Char} (c : Char)
    (h : Edits xs n (before ++ behind)) : Edits xs (n + 1) (before ++ c :: behind)
  | delete {n : Nat} (before : List Char) {behind : List Char} {c : Char}
    (h : Edits xs n (before ++ c :: behind)) : Edits xs (n + 1) (before ++ behind)
  | replace {n : Nat} (before : List Char) {behind : List Char} {c : Char} (d : Char)
    (h : Edits xs n (before ++ c :: behind)) : Edits xs (n + 1) (before ++ d :: behind)

/-- The texts can be written one above the other with `n` places where they do not match. -/
inductive Aligned : Nat → List Char → List Char → Prop
  | nil : Aligned 0 [] []
  | keep {n : Nat} {xs ys : List Char} (c : Char) (h : Aligned n xs ys) :
    Aligned n (c :: xs) (c :: ys)
  | replace {n : Nat} {xs ys : List Char} (c d : Char) (h : Aligned n xs ys) :
    Aligned (n + 1) (c :: xs) (d :: ys)
  | delete {n : Nat} {xs ys : List Char} (c : Char) (h : Aligned n xs ys) :
    Aligned (n + 1) (c :: xs) ys
  | insert {n : Nat} {xs ys : List Char} (d : Char) (h : Aligned n xs ys) :
    Aligned (n + 1) xs (d :: ys)

variable {m n : Nat} {xs ys zs : List Char} {c d : Char}

namespace Edits

/-- The same changes can be made behind a character. -/
theorem cons (c : Char) (h : Edits xs n ys) : Edits (c :: xs) n (c :: ys) := by
  induction h with
  | unchanged => exact .unchanged
  | insert before d h ih => exact .insert (c :: before) d ih
  | delete before h ih => exact .delete (c :: before) ih
  | replace before d h ih => exact .replace (c :: before) d ih

/-- The same changes can be made from right to left. -/
theorem reverse (h : Edits xs n ys) : Edits xs.reverse n ys.reverse := by
  induction h with
  | unchanged => exact .unchanged
  | @insert n before behind c h ih =>
    simp only [List.reverse_append, List.reverse_cons, List.append_assoc] at ih ⊢
    exact .insert behind.reverse c ih
  | @delete n before behind c h ih =>
    simp only [List.reverse_append, List.reverse_cons, List.append_assoc] at ih ⊢
    exact .delete behind.reverse ih
  | @replace n before behind c d h ih =>
    simp only [List.reverse_append, List.reverse_cons, List.append_assoc] at ih ⊢
    exact .replace behind.reverse d ih

end Edits

namespace Aligned

/-- An alignment read as changes from left to right. -/
theorem edits (h : Aligned n xs ys) : Edits xs n ys := by
  induction h with
  | nil => exact .unchanged
  | keep c h ih => exact ih.cons c
  | replace c d h ih => exact .replace [] d (ih.cons c)
  | delete c h ih => exact .delete [] (ih.cons c)
  | insert d h ih => exact .insert [] d ih

theorem self (xs : List Char) : Aligned 0 xs xs := by
  induction xs with
  | nil => exact .nil
  | cons c xs ih => exact .keep c ih

theorem min (hm : Aligned m xs ys) (hn : Aligned n xs ys) : Aligned (min m n) xs ys := by
  rcases Nat.le_total m n with hle | hle
  · rwa [Nat.min_eq_left hle]
  · rwa [Nat.min_eq_right hle]

/-- A character less in the second text costs one place at most. -/
theorem exists_of_cons (h : Aligned n xs (c :: ys)) : ∃ m ≤ n + 1, Aligned m xs ys := by
  generalize hzs : c :: ys = zs at h
  induction h with
  | nil => contradiction
  | keep e h ih =>
    obtain ⟨rfl, rfl⟩ := List.cons.inj hzs
    exact ⟨_, Nat.le_refl _, .delete c h⟩
  | replace e f h ih =>
    obtain ⟨rfl, rfl⟩ := List.cons.inj hzs
    exact ⟨_, Nat.le_succ _, .delete e h⟩
  | delete e h ih =>
    obtain ⟨m, hm, hrest⟩ := ih hzs
    exact ⟨m + 1, Nat.succ_le_succ hm, .delete e hrest⟩
  | insert e h ih =>
    obtain ⟨rfl, rfl⟩ := List.cons.inj hzs
    exact ⟨_, by omega, h⟩

/-- Another character in the second text costs one place at most. -/
theorem exists_replace (h : Aligned n xs (c :: ys)) (d : Char) :
    ∃ m ≤ n + 1, Aligned m xs (d :: ys) := by
  generalize hzs : c :: ys = zs at h
  induction h with
  | nil => contradiction
  | keep e h ih =>
    obtain ⟨rfl, rfl⟩ := List.cons.inj hzs
    exact ⟨_, Nat.le_refl _, .replace c d h⟩
  | replace e f h ih =>
    obtain ⟨rfl, rfl⟩ := List.cons.inj hzs
    exact ⟨_, Nat.le_succ _, .replace e d h⟩
  | delete e h ih =>
    obtain ⟨m, hm, hrest⟩ := ih hzs
    exact ⟨m + 1, Nat.succ_le_succ hm, .delete e hrest⟩
  | insert e h ih =>
    obtain ⟨rfl, rfl⟩ := List.cons.inj hzs
    exact ⟨_, Nat.le_succ _, .insert d h⟩

/-- What can be done to the ends of the second texts can be done behind a common beginning. -/
theorem exists_append {before : List Char} (h : Aligned n xs (before ++ ys))
    (hstep : ∀ {m us}, Aligned m us ys → ∃ k ≤ m + 1, Aligned k us zs) :
    ∃ k ≤ n + 1, Aligned k xs (before ++ zs) := by
  generalize hws : before ++ ys = ws at h
  induction h generalizing before with
  | nil =>
    obtain ⟨rfl, rfl⟩ := List.append_eq_nil_iff.1 hws
    exact hstep .nil
  | @keep n us ws e h ih =>
    cases before with
    | nil =>
      obtain rfl : ys = e :: ws := hws
      exact hstep (.keep e h)
    | cons c before =>
      obtain ⟨rfl, hbehind⟩ := List.cons.inj hws
      obtain ⟨k, hk, hnext⟩ := ih hbehind
      exact ⟨k, hk, .keep c hnext⟩
  | @replace n us ws e f h ih =>
    cases before with
    | nil =>
      obtain rfl : ys = f :: ws := hws
      exact hstep (.replace e f h)
    | cons c before =>
      obtain ⟨rfl, hbehind⟩ := List.cons.inj hws
      obtain ⟨k, hk, hnext⟩ := ih hbehind
      exact ⟨k + 1, Nat.succ_le_succ hk, .replace e c hnext⟩
  | delete e h ih =>
    obtain ⟨k, hk, hnext⟩ := ih hws
    exact ⟨k + 1, Nat.succ_le_succ hk, .delete e hnext⟩
  | @insert n us ws f h ih =>
    cases before with
    | nil =>
      obtain rfl : ys = f :: ws := hws
      exact hstep (.insert f h)
    | cons c before =>
      obtain ⟨rfl, hbehind⟩ := List.cons.inj hws
      obtain ⟨k, hk, hnext⟩ := ih hbehind
      exact ⟨k + 1, Nat.succ_le_succ hk, .insert c hnext⟩

end Aligned

/-- **Changes leave an alignment** that counts no more than their number. -/
theorem Edits.exists_aligned (h : Edits xs n ys) : ∃ m ≤ n, Aligned m xs ys := by
  induction h with
  | unchanged => exact ⟨0, Nat.le_refl 0, .self xs⟩
  | insert before c h ih =>
    obtain ⟨m, hm, halign⟩ := ih
    obtain ⟨k, hk, hnext⟩ := halign.exists_append fun hrest => ⟨_, Nat.le_refl _, .insert c hrest⟩
    exact ⟨k, by omega, hnext⟩
  | delete before h ih =>
    obtain ⟨m, hm, halign⟩ := ih
    obtain ⟨k, hk, hnext⟩ := halign.exists_append fun hrest => hrest.exists_of_cons
    exact ⟨k, by omega, hnext⟩
  | replace before d h ih =>
    obtain ⟨m, hm, halign⟩ := ih
    obtain ⟨k, hk, hnext⟩ := halign.exists_append fun hrest => hrest.exists_replace d
    exact ⟨k, by omega, hnext⟩

/-! ### The least count -/

/-- The least count of an alignment: the first characters stand above each other, or one of them
above a gap. -/
def alignmentCost : List Char → List Char → Nat
  | [], ys => ys.length
  | x :: xs, [] => xs.length + 1
  | x :: xs, y :: ys =>
    min (min (alignmentCost (x :: xs) ys + 1) (alignmentCost xs (y :: ys) + 1))
      (if x = y then alignmentCost xs ys else alignmentCost xs ys + 1)
termination_by xs ys => xs.length + ys.length

@[simp]
theorem alignmentCost_nil (xs : List Char) : alignmentCost xs [] = xs.length := by
  cases xs <;> simp [alignmentCost]

theorem alignmentCost_cons_cons (x y : Char) (xs ys : List Char) :
    alignmentCost (x :: xs) (y :: ys)
      = min (min (alignmentCost (x :: xs) ys + 1) (alignmentCost xs (y :: ys) + 1))
        (if x = y then alignmentCost xs ys else alignmentCost xs ys + 1) := by
  rw [alignmentCost]

theorem aligned_alignmentCost (xs ys : List Char) : Aligned (alignmentCost xs ys) xs ys := by
  induction xs, ys using alignmentCost.induct with
  | case1 ys =>
    induction ys with
    | nil => simpa using Aligned.nil
    | cons y ys ih => simpa [alignmentCost] using ih.insert y
  | case2 x xs =>
    induction xs generalizing x with
    | nil => simpa using Aligned.nil.delete x
    | cons x' xs ih => simpa using (ih x').delete x
  | case3 x xs y ys hinsert hdelete hkeep =>
    have hreplace : Aligned (if x = y then alignmentCost xs ys else alignmentCost xs ys + 1)
        (x :: xs) (y :: ys) := by
      split
      · next heq => exact heq ▸ hkeep.keep x
      · exact hkeep.replace x y
    rw [alignmentCost_cons_cons]
    exact ((hinsert.insert y).min (hdelete.delete x)).min hreplace

theorem Aligned.alignmentCost_le (h : Aligned n xs ys) : alignmentCost xs ys ≤ n := by
  induction h with
  | nil => simp
  | keep c h ih =>
    rw [alignmentCost_cons_cons, if_pos rfl]
    omega
  | replace c d h ih =>
    rw [alignmentCost_cons_cons]
    split <;> omega
  | @delete n xs ys c h ih =>
    cases ys with
    | nil => simpa using ih
    | cons y ys =>
      rw [alignmentCost_cons_cons]
      omega
  | @insert n xs ys d h ih =>
    cases xs with
    | nil => simpa [alignmentCost] using ih
    | cons x xs =>
      rw [alignmentCost_cons_cons]
      omega

/-! ### The rows -/

/-- The least counts for a text and the further and further beginnings of another one. Both are
held last character first, and `ys` is what follows of the second. -/
def costRow (xs zs : List Char) : List Char → List Nat
  | [] => []
  | y :: ys => alignmentCost xs (y :: zs) :: costRow xs (y :: zs) ys

theorem rowFrom_costRow (x : Char) (xs zs ys : List Char) :
    rowFrom x (alignmentCost (x :: xs) zs) (alignmentCost xs zs) (costRow xs zs ys) ys
      = costRow (x :: xs) zs ys := by
  induction ys generalizing zs with
  | nil => rfl
  | cons y ys ih =>
    rw [costRow, rowFrom, costRow, ← ih, alignmentCost_cons_cons]

theorem foldl_nextRow (xs xs' ys : List Char) :
    xs.foldl (nextRow ys) (alignmentCost xs' [] :: costRow xs' [] ys)
      = alignmentCost (xs.reverse ++ xs') [] :: costRow (xs.reverse ++ xs') [] ys := by
  induction xs generalizing xs' with
  | nil => rfl
  | cons x xs ih =>
    have hfirst : alignmentCost (x :: xs') [] = alignmentCost xs' [] + 1 := by simp
    rw [List.foldl_cons, nextRow, ← hfirst, rowFrom_costRow, ih, List.reverse_cons,
      List.append_assoc, List.singleton_append]

theorem costRow_nil (zs ys : List Char) :
    costRow [] zs ys = (List.range' (zs.length + 1) ys.length) := by
  induction ys generalizing zs with
  | nil => rfl
  | cons y ys ih => simp [costRow, ih, alignmentCost, List.range'_succ]

theorem getLastD_costRow (xs zs ys : List Char) :
    (alignmentCost xs zs :: costRow xs zs ys).getLastD 0 = alignmentCost xs (ys.reverse ++ zs) := by
  induction ys generalizing zs with
  | nil => rfl
  | cons y ys ih =>
    rw [List.reverse_cons, List.append_assoc, List.singleton_append, ← ih]
    simp [costRow]

/-- The last entry of the last row is the least count for the whole texts. -/
theorem editDistance_eq (xs ys : List Char) :
    editDistance xs ys = alignmentCost xs.reverse ys.reverse := by
  have hrange : List.range (ys.length + 1) = alignmentCost [] [] :: costRow [] [] ys := by
    rw [costRow_nil, List.range_eq_range', List.range'_succ]
    simp
  rw [editDistance, hrange, foldl_nextRow, getLastD_costRow, List.append_nil, List.append_nil]

/-- **The edit distance is the least number of changes** that turn one text into the other. -/
theorem isLeast_editDistance (xs ys : List Char) :
    IsLeast {n | Edits xs n ys} (editDistance xs ys) := by
  rw [editDistance_eq]
  constructor
  · have h := (aligned_alignmentCost xs.reverse ys.reverse).edits.reverse
    rwa [List.reverse_reverse, List.reverse_reverse] at h
  · intro n hn
    obtain ⟨m, hm, halign⟩ := (Edits.reverse hn).exists_aligned
    exact halign.alignmentCost_le.trans hm

end Text

end TitleScript
