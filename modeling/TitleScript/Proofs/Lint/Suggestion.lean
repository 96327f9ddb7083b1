import Mathlib.Data.List.Destutter
import Mathlib.Data.List.Permutation
import TitleScript.Lint.Suggestion
import TitleScript.Proofs.Distinct
import TitleScript.Proofs.Text.EditDistance

/-!
# The nearest names

The suggestions for a name should be the first three of the names within reach, each of them once,
nearer ones first and equally near ones as they are listed. The names within reach are sorted by
distance, and sorting keeps the order of equally near ones, so all that is left to do is to drop
repeats.

Repeats are dropped only where they stand one behind another. A name that is listed twice is as
near both times, so its repeats are not far away once the names are sorted, but an equally near
name listed in between stays in between. With three places there is room for one way to go wrong:
the first two suggestions are right, and the third one is the first once more. A list without
repeats, such as that of the names in a registry, cannot lead to this.

## Main definitions

* `nameDistance`, `InReach` — how far a name is from another, and which are near enough
* `RankedBefore`, `Ranking` — the names within reach in the order in which they are wanted

## Main results

* `filter_mergeSort` — sorting keeps the order of elements that are alike
* `eraseDups_dropRepeats` — repeats that are left are no new names
* `ranking_sorted` — the sorted names without repeats are in the order wanted
* `suggestions_subset` — nothing is suggested that is not listed
* `suggestions_ranked` — the suggestions are the first of these, one case apart
-/

namespace TitleScript

/-! ### What is wanted -/

/-- The edit distance of two names. -/
def nameDistance (name candidate : String) : Nat :=
  Text.editDistance name.toList candidate.toList

/-- The candidate is another name, and near enough: short names have to be nearer. -/
def InReach (name candidate : String) : Prop :=
  1 ≤ nameDistance name candidate
    ∧ nameDistance name candidate ≤ if name.length ≤ 3 then 1 else 2

instance (name candidate : String) : Decidable (InReach name candidate) :=
  inferInstanceAs (Decidable (_ ∧ _))

/-- The first name is nearer than the second, or as near and listed earlier. -/
def RankedBefore (name : String) (available : List String) (a b : String) : Prop :=
  nameDistance name a < nameDistance name b
    ∨ nameDistance name a = nameDistance name b ∧ available.idxOf a < available.idxOf b

/-- The distinct names within reach, nearer ones first and equally near ones as they are listed. -/
structure Ranking (name : String) (available ranked : List String) : Prop where
  mem_iff : ∀ candidate, candidate ∈ ranked ↔ candidate ∈ available ∧ InReach name candidate
  ordered : ranked.Pairwise (RankedBefore name available)

variable {α : Type} {name a b : String} {available ranked : List String}

theorem Ranking.nodup (h : Ranking name available ranked) : ranked.Nodup :=
  h.ordered.imp fun {a b} hbefore => by
    rintro rfl
    rcases hbefore with hlt | ⟨-, hlt⟩
    · exact Nat.lt_irrefl _ hlt
    · exact Nat.lt_irrefl _ hlt

/-! ### Sorting -/

/-- **Sorting keeps the order of elements that are alike.** -/
theorem filter_mergeSort (key : α → Nat) (k : Nat) (l : List α) :
    (l.mergeSort fun a b => key a ≤ key b).filter (key · = k) = l.filter (key · = k) := by
  have halike : (l.filter (key · = k)).Pairwise fun a b => decide (key a ≤ key b) = true := by
    refine List.pairwise_of_forall_mem_list fun a ha b hb => ?_
    simp only [List.mem_filter, decide_eq_true_eq] at ha hb ⊢
    omega
  have hsub : (l.filter (key · = k)).Sublist (l.mergeSort fun a b => key a ≤ key b) :=
    List.sublist_mergeSort (by simp only [decide_eq_true_eq]; omega) (by simp; omega) halike
      List.filter_sublist
  have hfilter := hsub.filter (key · = k)
  simp only [List.filter_filter, Bool.and_self] at hfilter
  have hlength := ((List.mergeSort_perm l fun a b => key a ≤ key b).filter (key · = k)).length_eq
  exact (hfilter.eq_of_length hlength.symm).symm

/-- The names within reach, nearer ones first. -/
def sortedNames (name : String) (available : List String) : List String :=
  (available.filter fun candidate => InReach name candidate).mergeSort fun a b =>
    nameDistance name a ≤ nameDistance name b

theorem mem_sortedNames :
    a ∈ sortedNames name available ↔ a ∈ available ∧ InReach name a := by
  rw [sortedNames, List.mem_mergeSort, List.mem_filter, decide_eq_true_eq]

theorem pairwise_sortedNames (name : String) (available : List String) :
    (sortedNames name available).Pairwise fun a b => nameDistance name a ≤ nameDistance name b := by
  have hsorted : (sortedNames name available).Pairwise fun a b =>
      decide (nameDistance name a ≤ nameDistance name b) = true :=
    List.pairwise_mergeSort (by simp only [decide_eq_true_eq]; omega) (by simp; omega) _
  simpa using hsorted

/-- Equally near names within reach stay as they are listed. -/
theorem filter_sortedNames (name : String) (available : List String) (k : Nat) :
    (sortedNames name available).filter (nameDistance name · = k)
      = (available.filter fun candidate => InReach name candidate).filter
        (nameDistance name · = k) :=
  filter_mergeSort (nameDistance name) k _

theorem idxOf_sortedNames_lt_iff (ha : InReach name a) (hb : InReach name b)
    (hdistance : nameDistance name a = nameDistance name b) :
    (sortedNames name available).idxOf a < (sortedNames name available).idxOf b
      ↔ available.idxOf a < available.idxOf b := by
  have hnear {l : List String} := idxOf_filter_lt_iff (a := a) (b := b)
    (p := (nameDistance name · = nameDistance name b)) (by simpa using hdistance) (by simp) l
  have hreach := idxOf_filter_lt_iff (a := a) (b := b)
    (p := fun candidate => InReach name candidate) (by simpa using ha) (by simpa using hb) available
  rw [← hnear, filter_sortedNames, hnear, hreach]

/-- **The sorted names without repeats are in the order wanted.** -/
theorem ranking_sorted (name : String) (available : List String) :
    Ranking name available (sortedNames name available).eraseDups where
  mem_iff candidate := by rw [List.mem_eraseDups, mem_sortedNames]
  ordered := by
    refine (pairwise_idxOf_eraseDups (sortedNames name available)).imp_of_mem ?_
    intro a b ha hb hlt
    rw [List.mem_eraseDups] at ha hb
    have hpair := List.pairwise_iff_getElem.1 (pairwise_sortedNames name available) _ _
      (List.idxOf_lt_length_iff.2 ha) (List.idxOf_lt_length_iff.2 hb) hlt
    rw [List.getElem_idxOf, List.getElem_idxOf] at hpair
    rcases Nat.lt_or_eq_of_le hpair with hnearer | hdistance
    · exact .inl hnearer
    · have hlisted : available.idxOf a < available.idxOf b :=
        (idxOf_sortedNames_lt_iff (mem_sortedNames.1 ha).2 (mem_sortedNames.1 hb).2 hdistance).1 hlt
      exact .inr ⟨hdistance, hlisted⟩

/-! ### Dropping repeats -/

theorem dropRepeats_cons (name : String) (names : List String) :
    dropRepeats (name :: names) = names.destutter' (· ≠ ·) name := by
  induction names generalizing name with
  | nil => rfl
  | cons next names ih =>
    rw [dropRepeats, List.destutter'_cons]
    by_cases heq : name = next
    · rw [if_pos heq, ih, heq]
      simp
    · rw [if_neg heq, ih, if_pos heq]

/-- Only repeats directly behind a name are dropped. -/
theorem dropRepeats_eq (names : List String) : dropRepeats names = names.destutter (· ≠ ·) := by
  cases names with
  | nil => rfl
  | cons name names => exact dropRepeats_cons name names

theorem dropRepeats_sublist (names : List String) : (dropRepeats names).Sublist names := by
  rw [dropRepeats_eq]
  exact List.destutter_sublist _ _

theorem isChain_dropRepeats (names : List String) : (dropRepeats names).IsChain (· ≠ ·) := by
  rw [dropRepeats_eq]
  exact List.isChain_destutter _ _

/-- Repeats that are left are no new names. -/
theorem eraseDups_dropRepeats (names : List String) :
    (dropRepeats names).eraseDups = names.eraseDups := by
  induction names with
  | nil => rfl
  | cons name names ih =>
    cases names with
    | nil => rfl
    | cons next rest =>
      rw [dropRepeats]
      by_cases heq : name = next
      · rw [if_pos heq, ih, heq, List.eraseDups_cons, List.eraseDups_cons]
        simp
      · rw [if_neg heq, List.eraseDups_cons, eraseDups_filter, ih, ← eraseDups_filter,
          ← List.eraseDups_cons]

/-- Of three elements without a repeat behind one another, only the first can be the third. -/
theorem nodup_take_or {l : List α} (h : l.IsChain (· ≠ ·)) :
    (l.take 3).Nodup ∨ ∃ a b rest, l = a :: b :: a :: rest ∧ a ≠ b := by
  match l, h with
  | [], _ => exact .inl .nil
  | [a], _ => exact .inl (List.nodup_singleton a)
  | [a, b], h => exact .inl (by simpa using h)
  | a :: b :: c :: rest, h =>
    simp only [List.isChain_cons_cons] at h
    by_cases heq : a = c
    · exact .inr ⟨a, b, rest, heq ▸ rfl, h.1⟩
    · exact .inl (by simp [h.1, h.2.1, heq])

/-! ### The suggestions -/

theorem map_nearby (name : String) (available : List String) :
    (nearby name available).map (·.2)
      = available.filter fun candidate => InReach name candidate := by
  rw [nearby, List.filter_map, List.map_map]
  have hid : ((·.2) : Nat × String → String) ∘
      (fun candidate => (Text.editDistance name.toList candidate.toList, candidate)) = id := rfl
  rw [hid, List.map_id]
  refine List.filter_congr fun candidate _ => ?_
  rw [Bool.eq_iff_iff, Function.comp_apply, Bool.and_eq_true]
  exact (and_congr decide_eq_true_iff decide_eq_true_iff).trans decide_eq_true_iff.symm

/-- The distances that are kept beside the names are those of the names. -/
theorem fst_of_mem_nearby {entry : Nat × String} (h : entry ∈ nearby name available) :
    entry.1 = nameDistance name entry.2 := by
  obtain ⟨candidate, -, rfl⟩ := List.mem_map.1 (List.mem_filter.1 h).1
  rfl

theorem suggestions_eq (name : String) (available : List String) :
    suggestions name available = (dropRepeats (sortedNames name available)).take 3 := by
  have hsorted : ((nearby name available).mergeSort fun a b => a.1 ≤ b.1).map (·.2)
      = sortedNames name available := by
    rw [sortedNames, ← map_nearby]
    refine List.map_mergeSort fun a ha b hb => ?_
    rw [fst_of_mem_nearby ha, fst_of_mem_nearby hb]
  rw [suggestions, hsorted]

/-- Suggestions are taken from the names on offer. -/
theorem suggestions_subset (name : String) (available : List String) :
    suggestions name available ⊆ available := by
  intro candidate h
  rw [suggestions_eq] at h
  have hsorted := (dropRepeats_sublist _).subset (List.mem_of_mem_take h)
  exact (mem_sortedNames.1 hsorted).1

/-- No name within reach that is left out is nearer than a suggestion. -/
theorem nameDistance_suggestion_le {candidate : String} (hlisted : candidate ∈ available)
    (hreach : InReach name candidate) (hleft : candidate ∉ suggestions name available)
    (ha : a ∈ suggestions name available) : nameDistance name a ≤ nameDistance name candidate := by
  rw [suggestions_eq] at hleft ha
  have hmem : candidate ∈ dropRepeats (sortedNames name available) := by
    rw [← List.mem_eraseDups, eraseDups_dropRepeats, List.mem_eraseDups, mem_sortedNames]
    exact ⟨hlisted, hreach⟩
  have hsorted := (pairwise_sortedNames name available).sublist (dropRepeats_sublist _)
  rw [← List.take_append_drop 3 (dropRepeats (sortedNames name available))] at hmem hsorted
  rcases List.mem_append.1 hmem with htake | hdrop
  · exact absurd htake hleft
  · exact (List.pairwise_append.1 hsorted).2.2 a ha candidate hdrop

/-- Where the third suggestion is the first one once more, all three are as near, and they are
listed in this order. -/
theorem repeated_suggestion {rest : List String}
    (h : dropRepeats (sortedNames name available) = a :: b :: a :: rest) :
    nameDistance name a = nameDistance name b ∧ [a, b, a].Sublist available := by
  have hsub : [a, b, a].Sublist (sortedNames name available) := by
    have hfirst : [a, b, a].Sublist (dropRepeats (sortedNames name available)) := by
      rw [h]
      exact List.sublist_append_left [a, b, a] rest
    exact hfirst.trans (dropRepeats_sublist _)
  have hdistance : nameDistance name a = nameDistance name b := by
    have hsorted := (pairwise_sortedNames name available).sublist hsub
    simp only [List.pairwise_cons, List.mem_cons, List.not_mem_nil, or_false] at hsorted
    exact Nat.le_antisymm (hsorted.1 b (.inl rfl)) (hsorted.2.1 a rfl)
  have halike := hsub.filter (nameDistance name · = nameDistance name b)
  rw [filter_sortedNames] at halike
  simp only [List.filter_cons, hdistance, decide_true, if_true, List.filter_nil] at halike
  exact ⟨hdistance, halike.trans (List.filter_sublist.trans List.filter_sublist)⟩

/-- **The suggestions are the first of the names wanted, one case apart.** The distance is the least
number of changes of a character, no name within reach is left out for one that is farther away, and
the suggestions are the first three names of the ranking. Only where an equally near name is listed
between two occurrences of the nearest one can the nearest one come back as the third. -/
theorem suggestions_ranked (name : String) (available : List String) :
    (∀ candidate, IsLeast {n | Text.Edits name.toList n candidate.toList}
      (nameDistance name candidate))
      ∧ (∀ candidate ∈ available, InReach name candidate →
        candidate ∉ suggestions name available → ∀ a ∈ suggestions name available,
          nameDistance name a ≤ nameDistance name candidate)
      ∧ ∃ ranked, Ranking name available ranked
        ∧ (available.Nodup → suggestions name available = ranked.take 3)
        ∧ (suggestions name available = ranked.take 3
          ∨ ∃ a b, suggestions name available = [a, b, a] ∧ ranked.take 2 = [a, b]
            ∧ nameDistance name a = nameDistance name b ∧ [a, b, a].Sublist available) := by
  refine ⟨fun candidate => Text.isLeast_editDistance _ _, ?_, ?_⟩
  · intro candidate hlisted hreach hleft a ha
    exact nameDistance_suggestion_le hlisted hreach hleft ha
  refine ⟨(sortedNames name available).eraseDups, ranking_sorted name available, ?_⟩
  have hchain := isChain_dropRepeats (sortedNames name available)
  rw [suggestions_eq, ← eraseDups_dropRepeats]
  rcases nodup_take_or hchain with hnodup | ⟨a, b, rest, hnames, hne⟩
  · have htake := (take_eraseDups_of_nodup hnodup).symm
    exact ⟨fun _ => htake, .inl htake⟩
  · have hrepeated := repeated_suggestion hnames
    have hfirst : (dropRepeats (sortedNames name available)).eraseDups.take 2 = [a, b] := by
      rw [take_eraseDups_of_nodup (by simp [hnames, hne])]
      simp [hnames]
    constructor
    · -- a name that is listed once is not listed before and behind another
      intro hnodup
      have htwice := hnodup.sublist hrepeated.2
      simp at htwice
    · exact .inr ⟨a, b, by simp [hnames], hfirst, hrepeated⟩

/-- Two of the three names are near enough, and the nearer one is listed last. -/
theorem suggestions_ranked_artis :
    ["artists", "album", "artist"].Nodup
      ∧ suggestions "artis" ["artists", "album", "artist"] = ["artist", "artists"]
      ∧ ∃ ranked, Ranking "artis" ["artists", "album", "artist"] ranked
        ∧ suggestions "artis" ["artists", "album", "artist"] = ranked.take 3 := by
  obtain ⟨-, -, ranked, hranking, hfirst, -⟩ :=
    suggestions_ranked "artis" ["artists", "album", "artist"]
  have hnodup : ["artists", "album", "artist"].Nodup := by decide
  exact ⟨hnodup, by cbv, ranked, hranking, hfirst hnodup⟩

/-- **A name can be suggested twice**, if an equally near one is listed in between. -/
theorem suggestion_repeated :
    suggestions "title" ["titla", "titlb", "titla"] = ["titla", "titlb", "titla"]
      ∧ ¬∃ ranked, Ranking "title" ["titla", "titlb", "titla"] ranked
        ∧ suggestions "title" ["titla", "titlb", "titla"] = ranked.take 3 := by
  have hnames : suggestions "title" ["titla", "titlb", "titla"] = ["titla", "titlb", "titla"] := by
    cbv
  refine ⟨hnames, ?_⟩
  rintro ⟨ranked, hranking, hfirst⟩
  have hnodup : (ranked.take 3).Nodup := hranking.nodup.sublist (List.take_sublist 3 ranked)
  rw [← hfirst, hnames] at hnodup
  simp at hnodup

end TitleScript
