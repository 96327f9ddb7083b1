import TitleScript.Text.ScalarMap
import TitleScript.Text.ScalarSet

/-!
# The code points in tables

A table of characters stores stretches, and a statement about every character of a table is checked
for the code points of its stretches, one after another. That two tables have nothing in common is
checked for all their code points at once, with a table as the bits of one number: looking up each
code point of one table in the other takes far longer.

## Main definitions

* `ScalarMap.codes`, `ScalarMap.imageCodes` — the code points that a map moves, and their images
* `ScalarSet.stretches`, `ScalarSet.codes` — the stretches and the code points of a set
* `ScalarSet.apart` — no stretches of two sets overlap
* `bits`, `ScalarSet.bits` — code points as the bits of a number

## Main results

* `ScalarMap.image_of_not_mem`, `ScalarMap.mem_imageCodes` — the image of a character
* `ScalarSet.mem_codes` — every character of a set is listed
* `ScalarSet.contains_of_mem_stretches`, `ScalarSet.contains_of_testBit` — what is listed is in the
  set
* `ScalarSet.contains_eq_false_of_apart` — sets whose stretches do not overlap are disjoint
* `not_mem_of_bits` — tables without a common bit have no common code point
-/

namespace TitleScript

/-! ### Maps -/

namespace ScalarMap

/-- The code points of a run. -/
def Run.codes (r : Run) : List Nat :=
  (List.range ((r.last - r.first) / r.stride + 1)).map (r.first + r.stride * ·)

theorem Run.mem_codes {r : Run} {n : Nat} (h : r.covers n) : n ∈ r.codes := by
  have hcovers : (r.first ≤ n ∧ n ≤ r.last) ∧ (n - r.first) % r.stride = 0 := by
    simpa [Run.covers] using h
  obtain ⟨⟨hfirst, hlast⟩, hmod⟩ := hcovers
  have hdiv : r.stride * ((n - r.first) / r.stride) = n - r.first := by
    rw [← Nat.add_zero (_ * _), ← hmod, Nat.div_add_mod]
  have hle : (n - r.first) / r.stride ≤ (r.last - r.first) / r.stride :=
    Nat.div_le_div_right (by omega)
  refine List.mem_map.2 ⟨(n - r.first) / r.stride, List.mem_range.2 (by omega), ?_⟩
  rw [hdiv]
  omega

/-- The code points that a map has a run for. -/
def codes (m : ScalarMap) : List Nat :=
  m.runs.toList.flatMap Run.codes

/-- The code points to which the runs of a map lead. -/
def imageCodes (m : ScalarMap) : List Nat :=
  m.runs.toList.flatMap fun r => r.codes.flatMap fun n => (r.image.apply n).map Char.toNat

variable {m : ScalarMap} {c : Char}

/-- A character is its own image, or it is moved by a run that covers it. -/
theorem image_cases (m : ScalarMap) (c : Char) :
    m.image c = [c] ∨ ∃ r ∈ m.runs, r.covers c.toNat ∧ m.image c = r.image.apply c.toNat := by
  rw [image, image?]
  cases hrun : m.run? c.toNat with
  | none => exact .inl rfl
  | some r =>
    obtain ⟨hmem, hcovers⟩ := run?_eq_some_iff.1 hrun
    exact .inr ⟨r, hmem, hcovers, rfl⟩

theorem mem_codes {r : Run} (hmem : r ∈ m.runs) {n : Nat} (h : r.covers n) : n ∈ m.codes :=
  List.mem_flatMap.2 ⟨r, Array.mem_toList_iff.2 hmem, r.mem_codes h⟩

theorem image_of_not_mem (h : c.toNat ∉ m.codes) : m.image c = [c] := by
  obtain hself | ⟨r, hmem, hcovers, -⟩ := image_cases m c
  · exact hself
  · exact absurd (mem_codes hmem hcovers) h

theorem mem_imageCodes {d : Char} (h : d ∈ m.image c) :
    (d = c ∧ m.image c = [c]) ∨ d.toNat ∈ m.imageCodes := by
  obtain hself | ⟨r, hmem, hcovers, himage⟩ := image_cases m c
  · rw [hself] at h
    exact .inl ⟨List.mem_singleton.1 h, hself⟩
  · rw [himage] at h
    refine .inr (List.mem_flatMap.2 ⟨r, Array.mem_toList_iff.2 hmem, ?_⟩)
    exact List.mem_flatMap.2 ⟨c.toNat, r.mem_codes hcovers, List.mem_map_of_mem h⟩

/-- Whether an image rule leaves nothing of a character. -/
def Image.drops : Image → Bool
  | shift _ => false
  | text codes => codes.isEmpty

/-- A character disappears only under a rule that leaves nothing. -/
theorem image_ne_nil (h : ∀ r ∈ m.runs.toList, r.image.drops = false) (c : Char) :
    m.image c ≠ [] := by
  obtain hself | ⟨r, hmem, -, himage⟩ := image_cases m c
  · rw [hself]
    exact List.cons_ne_nil _ _
  · have hdrops := h r (Array.mem_toList_iff.2 hmem)
    rw [himage]
    cases hrule : r.image with
    | shift distance => exact List.cons_ne_nil _ _
    | text codes =>
      rw [hrule, Image.drops, List.isEmpty_eq_false_iff] at hdrops
      exact fun hnil => hdrops (List.map_eq_nil_iff.1 hnil)

end ScalarMap

/-! ### Sets -/

namespace ScalarSet

/-- The stretches that a list of cuts bounds, each with the number behind it. -/
def stretchesOf : List Nat → List (Nat × Nat)
  | first :: bound :: cuts => (first, bound) :: stretchesOf cuts
  | _ => []

/-- The stretches of a set that ends with a cut. -/
def stretches (s : ScalarSet) : List (Nat × Nat) :=
  stretchesOf s.cuts.toList

/-- The code points of a set that ends with a cut. -/
def codes (s : ScalarSet) : List Nat :=
  s.stretches.flatMap fun p => List.range' p.1 (p.2 - p.1)

/-- Whether no stretches of two sets overlap. -/
def apart (s t : ScalarSet) : Bool :=
  s.stretches.all fun p => t.stretches.all fun q => Nat.ble p.2 q.1 || Nat.ble q.2 p.1

theorem exists_mem_stretchesOf {n : Nat} : ∀ {cuts : List Nat}, cuts.length % 2 = 0 →
    cuts.Pairwise (· < ·) → cuts.countP (· ≤ n) % 2 = 1 →
    ∃ p ∈ stretchesOf cuts, p.1 ≤ n ∧ n < p.2
  | [], _, _, hodd => absurd hodd (by simp)
  | [_], heven, _, _ => absurd heven (by simp)
  | first :: bound :: cuts, heven, hlt, hodd => by
    obtain ⟨hfirst, hrest⟩ := List.pairwise_cons.1 hlt
    obtain ⟨hbound, hcuts⟩ := List.pairwise_cons.1 hrest
    have hlength : cuts.length % 2 = 0 := by
      simp only [List.length_cons] at heven
      omega
    by_cases hinside : first ≤ n ∧ n < bound
    · exact ⟨(first, bound), List.mem_cons_self, hinside⟩
    have hsame : cuts.countP (· ≤ n) % 2 = 1 := by
      by_cases hbefore : n < first
      · -- a number before the first cut is before all of them
        have hnone : (first :: bound :: cuts).countP (· ≤ n) = 0 := by
          rw [List.countP_eq_zero]
          intro cut hcut
          have hle : first ≤ cut := by
            rcases List.mem_cons.1 hcut with rfl | hcut
            · exact Nat.le_refl _
            · exact Nat.le_of_lt (hfirst cut hcut)
          simp
          omega
        rw [hnone] at hodd
        contradiction
      · have hfirstLe : first ≤ n := by omega
        have hboundLe : bound ≤ n := by omega
        rw [List.countP_cons_of_pos (by simpa), List.countP_cons_of_pos (by simpa)] at hodd
        omega
    obtain ⟨p, hp, hn⟩ := exists_mem_stretchesOf hlength hcuts hsame
    exact ⟨p, List.mem_cons_of_mem _ hp, hn⟩

theorem fst_mem_of_mem_stretchesOf {p : Nat × Nat} : ∀ {cuts : List Nat}, p ∈ stretchesOf cuts →
    p.1 ∈ cuts
  | first :: bound :: cuts, hp => by
    rcases List.mem_cons.1 hp with rfl | hp
    · exact List.mem_cons_self
    · exact List.mem_cons_of_mem _ (List.mem_cons_of_mem _ (fst_mem_of_mem_stretchesOf hp))

/-- An odd number of cuts lie at or below a number in a stretch. -/
theorem countP_of_mem_stretchesOf {n : Nat} {p : Nat × Nat} : ∀ {cuts : List Nat},
    cuts.Pairwise (· < ·) → p ∈ stretchesOf cuts → p.1 ≤ n → n < p.2 →
    cuts.countP (· ≤ n) % 2 = 1
  | first :: bound :: cuts, hlt, hp, hle, hn => by
    obtain ⟨-, hrest⟩ := List.pairwise_cons.1 hlt
    obtain ⟨hbound, hcuts⟩ := List.pairwise_cons.1 hrest
    rcases List.mem_cons.1 hp with rfl | hp
    · -- the cuts behind the first stretch are above its end
      have hnone : (bound :: cuts).countP (· ≤ n) = 0 := by
        rw [List.countP_eq_zero]
        intro cut hcut
        have hge : bound ≤ cut := by
          rcases List.mem_cons.1 hcut with rfl | hcut
          · exact Nat.le_refl _
          · exact Nat.le_of_lt (hbound cut hcut)
        simp only [decide_eq_true_eq, Nat.not_le]
        omega
      rw [List.countP_cons_of_pos (by simpa using hle), hnone]
    · have habove := hbound _ (fst_mem_of_mem_stretchesOf hp)
      have hbefore : first < bound := (List.pairwise_cons.1 hlt).1 bound List.mem_cons_self
      have hodd := countP_of_mem_stretchesOf hcuts hp hle hn
      rw [List.countP_cons_of_pos (by simp; omega), List.countP_cons_of_pos (by simp; omega)]
      omega

variable {s t : ScalarSet} {c : Char}

theorem contains_of_mem_stretches {p : Nat × Nat} (hp : p ∈ s.stretches) (hle : p.1 ≤ c.toNat)
    (hlt : c.toNat < p.2) : s.contains c := by
  rw [contains_eq, beq_iff_eq]
  exact countP_of_mem_stretchesOf s.pairwise_cuts hp hle hlt

theorem exists_mem_stretches (heven : s.cuts.toList.length % 2 = 0) (h : s.contains c) :
    ∃ p ∈ s.stretches, p.1 ≤ c.toNat ∧ c.toNat < p.2 := by
  rw [contains_eq, beq_iff_eq] at h
  exact exists_mem_stretchesOf heven s.pairwise_cuts h

theorem mem_codes (heven : s.cuts.toList.length % 2 = 0) (h : s.contains c) :
    c.toNat ∈ s.codes := by
  obtain ⟨p, hp, hle, hlt⟩ := exists_mem_stretches heven h
  refine List.mem_flatMap.2 ⟨p, hp, List.mem_range'_1.2 ?_⟩
  omega

/-- Sets without overlapping stretches have no common character. -/
theorem contains_eq_false_of_apart (hs : s.cuts.toList.length % 2 = 0)
    (ht : t.cuts.toList.length % 2 = 0) (h : s.apart t) (hc : s.contains c) :
    t.contains c = false := by
  refine Bool.eq_false_iff.2 fun htc => ?_
  obtain ⟨p, hp, hple, hplt⟩ := exists_mem_stretches hs hc
  obtain ⟨q, hq, hqle, hqlt⟩ := exists_mem_stretches ht htc
  have hapart := List.all_eq_true.1 (List.all_eq_true.1 h p hp) q hq
  rw [Bool.or_eq_true, Nat.ble_eq, Nat.ble_eq] at hapart
  omega

end ScalarSet

/-! ### Bits -/

/-- Code points as the bits of a number. -/
def bits (codes : List Nat) : Nat :=
  codes.foldr (fun n bits => bits ||| 1 <<< n) 0

theorem testBit_bits {codes : List Nat} {n : Nat} (h : n ∈ codes) : (bits codes).testBit n := by
  induction codes with
  | nil => exact absurd h List.not_mem_nil
  | cons m codes ih =>
    have hcons : bits (m :: codes) = bits codes ||| 1 <<< m := rfl
    rw [hcons, Nat.testBit_or]
    rcases List.mem_cons.1 h with rfl | h
    · simp [Nat.one_shiftLeft, Nat.testBit_two_pow_self]
    · rw [ih h, Bool.true_or]

/-- The code points of a set as the bits of a number, a stretch at a time. -/
def ScalarSet.bits (s : ScalarSet) : Nat :=
  s.stretches.foldr (fun p bits => bits ||| (1 <<< (p.2 - p.1) - 1) <<< p.1) 0

/-- The bits of a set are those of its characters. -/
theorem ScalarSet.contains_of_testBit {s : ScalarSet} {c : Char} (h : s.bits.testBit c.toNat) :
    s.contains c := by
  have hstretch : ∀ stretches : List (Nat × Nat),
      (stretches.foldr (fun p bits => bits ||| (1 <<< (p.2 - p.1) - 1) <<< p.1) 0).testBit c.toNat →
      ∃ p ∈ stretches, p.1 ≤ c.toNat ∧ c.toNat < p.2 := by
    intro stretches h
    induction stretches with
    | nil => simp at h
    | cons p stretches ih =>
      rw [List.foldr_cons, Nat.testBit_or, Bool.or_eq_true] at h
      rcases h with h | h
      · obtain ⟨q, hq, hn⟩ := ih h
        exact ⟨q, List.mem_cons_of_mem _ hq, hn⟩
      · rw [Nat.testBit_shiftLeft, Nat.one_shiftLeft, Nat.testBit_two_pow_sub_one, Bool.and_eq_true,
          decide_eq_true_eq, decide_eq_true_eq] at h
        exact ⟨p, List.mem_cons_self, by omega⟩
  obtain ⟨p, hp, hle, hlt⟩ := hstretch s.stretches h
  exact contains_of_mem_stretches hp hle hlt

/-- Code points whose bits add nothing to a number have their bits in it. -/
theorem testBit_of_bits {codes : List Nat} {number : Nat} (h : bits codes ||| number = number)
    {n : Nat} (hn : n ∈ codes) : number.testBit n := by
  rw [← h, Nat.testBit_or, testBit_bits hn, Bool.true_or]

/-- Tables without a common bit have no common code point. -/
theorem not_mem_of_bits {codes other : List Nat} (h : bits codes &&& bits other = 0) {n : Nat}
    (hn : n ∈ codes) : n ∉ other := by
  intro hother
  have hboth : (bits codes &&& bits other).testBit n = true := by
    rw [Nat.testBit_and, testBit_bits hn, testBit_bits hother, Bool.and_self]
  rw [h, Nat.zero_testBit] at hboth
  contradiction

end TitleScript
