/-!
# The distinct elements of a list

Repeats are dropped in two places: a list field is planned once however often a script uses it, and
a repeated result is left out if the settings say so. Both keep the first occurrence of each
element, by dropping what equals the head from the rest. So the proofs go by the length of the list.

The distinct elements are in the order of their first occurrences. Which of two elements occurs
first is not changed by leaving out others, so this can be said by positions in the whole list.

## Main results

* `nodup_eraseDups` — no element is left twice
* `eraseDups_map` — dropping repeats before or after an injective map
* `eraseDups_filter` — dropping repeats before or after leaving out elements
* `take_eraseDups_of_nodup` — repeats behind a beginning without repeats
* `idxOf_filter_lt_iff` — which of two elements occurs first when others are left out
* `pairwise_idxOf_eraseDups` — the distinct elements in the order of their first occurrences
-/

namespace TitleScript

variable {α β : Type} [BEq α] [LawfulBEq α] [BEq β] [LawfulBEq β]

theorem nodup_eraseDups (l : List α) : l.eraseDups.Nodup := by
  match l with
  | [] => exact .nil
  | a :: l =>
    rw [List.eraseDups_cons, List.nodup_cons]
    refine ⟨fun ha => ?_, nodup_eraseDups _⟩
    have hfilter := List.mem_filter.1 (List.mem_eraseDups.1 ha)
    simp at hfilter
termination_by l.length
decreasing_by exact Nat.lt_succ_of_le (List.length_filter_le ..)

/-- Where elements with one image are equal, repeats can be dropped before mapping. -/
theorem eraseDups_map (f : α → β) (l : List α) (h : ∀ a ∈ l, ∀ b ∈ l, f a = f b → a = b) :
    (l.map f).eraseDups = l.eraseDups.map f := by
  match l with
  | [] => rfl
  | a :: l =>
    have hfilter : (l.map f).filter (fun b => !b == f a) = (l.filter fun b => !b == a).map f := by
      rw [List.filter_map]
      refine congrArg _ (List.filter_congr fun b hb => ?_)
      have hiff : f b = f a ↔ b = a := by
        refine ⟨fun heq => ?_, fun heq => heq ▸ rfl⟩
        exact h b (List.mem_cons_of_mem _ hb) a List.mem_cons_self heq
      simp only [Function.comp_apply]
      rw [Bool.eq_iff_iff]
      simp [hiff]
    have hrest := eraseDups_map f (l.filter fun b => !b == a) fun b hb c hc => by
      have hb := (List.mem_filter.1 hb).1
      have hc := (List.mem_filter.1 hc).1
      exact h b (List.mem_cons_of_mem _ hb) c (List.mem_cons_of_mem _ hc)
    rw [List.map_cons, List.eraseDups_cons, List.eraseDups_cons, List.map_cons, hfilter, hrest]
termination_by l.length
decreasing_by exact Nat.lt_succ_of_le (List.length_filter_le ..)

/-- Repeats can be dropped before or after other elements are left out. -/
theorem eraseDups_filter (p : α → Bool) (l : List α) :
    (l.filter p).eraseDups = l.eraseDups.filter p := by
  match l with
  | [] => rfl
  | a :: l =>
    have hrest := eraseDups_filter p (l.filter fun b => !b == a)
    by_cases ha : p a
    · have hcomm : (l.filter p).filter (fun b => !b == a)
          = (l.filter fun b => !b == a).filter p := by
        simp only [List.filter_filter, Bool.and_comm]
      rw [List.filter_cons_of_pos ha, List.eraseDups_cons, List.eraseDups_cons,
        List.filter_cons_of_pos ha, hcomm, hrest]
    · -- the head is left out, and so are its repeats
      have hsame : (l.filter fun b => !b == a).filter p = l.filter p := by
        rw [List.filter_filter]
        refine List.filter_congr fun b _ => ?_
        by_cases hb : b = a
        · simp [hb, ha]
        · simp [hb]
      rw [List.filter_cons_of_neg ha, List.eraseDups_cons, List.filter_cons_of_neg ha, ← hrest,
        hsame]
termination_by l.length
decreasing_by exact Nat.lt_succ_of_le (List.length_filter_le ..)

theorem eraseDups_of_nodup {l : List α} (h : l.Nodup) : l.eraseDups = l := by
  induction l with
  | nil => rfl
  | cons a l ih =>
    rw [List.nodup_cons] at h
    have hkept : (l.filter fun b => !b == a) = l := by
      rw [List.filter_eq_self]
      intro b hb
      have hne : b ≠ a := fun heq => h.1 (heq ▸ hb)
      simpa using hne
    rw [List.eraseDups_cons, hkept, ih h.2]

/-- A beginning without repeats is a beginning of the distinct elements. -/
theorem take_eraseDups_of_nodup {l : List α} {n : Nat} (h : (l.take n).Nodup) :
    l.eraseDups.take n = l.take n := by
  rcases Nat.le_total l.length n with hle | hle
  · rw [List.take_of_length_le hle] at h ⊢
    rw [eraseDups_of_nodup h, List.take_of_length_le hle]
  · have hsplit : l.eraseDups = l.take n ++ ((l.drop n).removeAll (l.take n)).eraseDups := by
      have happend : (l.take n ++ l.drop n).eraseDups
          = (l.take n).eraseDups ++ ((l.drop n).removeAll (l.take n)).eraseDups :=
        List.eraseDups_append
      rwa [List.take_append_drop, eraseDups_of_nodup h] at happend
    rw [hsplit, List.take_left' (List.length_take_of_le hle)]

/-! ### First occurrences -/

theorem idxOf_cons_of_ne {a c : α} (h : a ≠ c) (l : List α) :
    (c :: l).idxOf a = l.idxOf a + 1 := by
  rw [List.idxOf_cons, beq_false_of_ne h.symm, cond_false]

/-- Leaving out elements does not change which of two others occurs first. -/
theorem idxOf_filter_lt_iff {p : α → Bool} {a b : α} (ha : p a) (hb : p b) (l : List α) :
    (l.filter p).idxOf a < (l.filter p).idxOf b ↔ l.idxOf a < l.idxOf b := by
  induction l with
  | nil => rfl
  | cons c l ih =>
    by_cases hc : p c
    · rw [List.filter_cons_of_pos hc]
      by_cases hac : a = c <;> by_cases hbc : b = c
      · simp [hac, hbc]
      · simp [hac, idxOf_cons_of_ne hbc]
      · simp [hbc]
      · simp [idxOf_cons_of_ne hac, idxOf_cons_of_ne hbc, ih]
    · -- neither of the two is the element that is left out
      have hac : a ≠ c := by
        rintro rfl
        exact hc ha
      have hbc : b ≠ c := by
        rintro rfl
        exact hc hb
      rw [List.filter_cons_of_neg hc, idxOf_cons_of_ne hac, idxOf_cons_of_ne hbc, ih]
      omega

/-- The distinct elements are in the order of their first occurrences. -/
theorem pairwise_idxOf_eraseDups (l : List α) :
    l.eraseDups.Pairwise fun a b => l.idxOf a < l.idxOf b := by
  match l with
  | [] => exact .nil
  | c :: l =>
    have hother : ∀ a ∈ (l.filter fun b => !b == c).eraseDups, (!a == c) = true ∧ a ≠ c := by
      intro a ha
      have hkept := (List.mem_filter.1 (List.mem_eraseDups.1 ha)).2
      exact ⟨hkept, by simpa using hkept⟩
    rw [List.eraseDups_cons, List.pairwise_cons]
    constructor
    · intro a ha
      rw [List.idxOf_cons_self, idxOf_cons_of_ne (hother a ha).2]
      omega
    · refine (pairwise_idxOf_eraseDups (l.filter fun b => !b == c)).imp_of_mem ?_
      intro a b ha hb hlt
      rw [idxOf_filter_lt_iff (p := fun b => !b == c) (hother a ha).1 (hother b hb).1] at hlt
      rw [idxOf_cons_of_ne (hother a ha).2, idxOf_cons_of_ne (hother b hb).2]
      omega
termination_by l.length
decreasing_by exact Nat.lt_succ_of_le (List.length_filter_le ..)

end TitleScript
