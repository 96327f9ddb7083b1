import Mathlib.Algebra.BigOperators.Group.List.Basic
import Mathlib.Algebra.Order.BigOperators.Group.List
import TitleScript.FanOut

/-!
# The enumeration of a fan-out

The branches of a fan-out are made by turning an odometer, one step after each branch. Here the
combinations are made from the choices, field by field: first all those with the first choice for
the first field, in the order of the combinations of the other fields, and so on. That none of them
is missing or repeated, and that the first field varies slowest, is plain for these.

The two are related by numbers. The odometer shows a number in the mixed radix of the numbers of
choices, a field without values having radix 1, and a step takes it to the next number. It carries
out of some fields exactly when the number of their combinations divides that next number. The
combinations come in the order of their numbers as well.

## Main definitions

* `FanOut.combinations`, `FanOut.total` — all combinations of choices, and their number
* `FanOut.digitsAt` — a number in the mixed radix of the fields

## Main results

* `FanOut.turn_digitsAt`, `FanOut.advance_digitsAt` — a step of the odometer adds one
* `FanOut.branchesFrom_digitsAt` — the branches made from a number on
* `FanOut.combinations_eq` — the combinations are the digits of the numbers below their count
* `FanOut.mem_combinations_iff`, `FanOut.pairwise_combinations` — all combinations, in order
* `FanOut.branchCount_eq` — the number of branches before any limit
* `FanOut.branches_eq` — the branches are the first combinations
* `FanOut.lookup_entries_bind` — the value of a field in a branch
-/

namespace TitleScript

namespace FanOut

/-- All combinations of choices, one choice for each field. The choices for a field are numbered,
and those for the first field vary slowest. -/
def combinations : List (String × List String) → List (List Nat)
  | [] => [[]]
  | field :: fields =>
    (List.range (choices field.2)).flatMap fun i => (combinations fields).map (i :: ·)

/-- The number of combinations. -/
def total (fields : List (String × List String)) : Nat :=
  (fields.map fun field => choices field.2).prod

/-- The digits of a number in the mixed radix of the fields, highest first. -/
def digitsAt : List (String × List String) → Nat → List Nat
  | [], _ => []
  | field :: fields, i => i / total fields % choices field.2 :: digitsAt fields i

variable {field : String × List String} {fields : List (String × List String)}

theorem choices_pos (values : List String) : 0 < choices values :=
  Nat.le_max_left 1 values.length

@[simp] theorem total_nil : total [] = 1 := rfl

@[simp] theorem total_cons (field : String × List String) (fields : List (String × List String)) :
    total (field :: fields) = choices field.2 * total fields := by
  rw [total, List.map_cons, List.prod_cons, total]

theorem total_pos (fields : List (String × List String)) : 0 < total fields := by
  induction fields with
  | nil => exact Nat.one_pos
  | cons field fields ih =>
    rw [total_cons]
    exact Nat.mul_pos (choices_pos field.2) ih

/-! ### Numbers of combinations -/

/-- The digits repeat with the number of combinations. -/
theorem digitsAt_mul_add (fields : List (String × List String)) (k i : Nat) :
    digitsAt fields (k * total fields + i) = digitsAt fields i := by
  induction fields generalizing k with
  | nil => rfl
  | cons field fields ih =>
    have hassoc : k * total (field :: fields) + i = k * choices field.2 * total fields + i := by
      rw [total_cons, Nat.mul_assoc]
    have hdigit : (k * choices field.2 * total fields + i) / total fields % choices field.2
        = i / total fields % choices field.2 := by
      rw [Nat.add_comm, Nat.add_mul_div_right _ _ (total_pos fields), Nat.add_mul_mod_self_right]
    rw [digitsAt, digitsAt, hassoc, hdigit, ih]

theorem range_mul (m n : Nat) :
    List.range (m * n) = (List.range m).flatMap fun i => (List.range n).map (i * n + ·) := by
  induction m with
  | zero => simp
  | succ m ih =>
    rw [Nat.succ_mul, List.range_add, ih, List.range_succ, List.flatMap_append,
      List.flatMap_singleton]

/-- **The combinations are numbered by their digits.** -/
theorem combinations_eq (fields : List (String × List String)) :
    combinations fields = (List.range (total fields)).map (digitsAt fields) := by
  induction fields with
  | nil => rfl
  | cons field fields ih =>
    rw [combinations, total_cons, range_mul, List.map_flatMap, ih]
    refine List.flatMap_congr fun i hi => ?_
    rw [List.map_map, List.map_map]
    refine List.map_congr_left fun j hj => ?_
    have hi : i < choices field.2 := List.mem_range.1 hi
    have hj : j < total fields := List.mem_range.1 hj
    have hdigit : (i * total fields + j) / total fields % choices field.2 = i := by
      rw [Nat.add_comm, Nat.add_mul_div_right _ _ (total_pos fields), Nat.div_eq_of_lt hj,
        Nat.zero_add, Nat.mod_eq_of_lt hi]
    simp only [Function.comp_apply, digitsAt]
    rw [hdigit, digitsAt_mul_add]

theorem length_combinations (fields : List (String × List String)) :
    (combinations fields).length = total fields := by
  rw [combinations_eq, List.length_map, List.length_range]

/-! ### The odometer -/

/-- One place of the odometer: the digit goes up while a value is left for it, and begins again
where the choices divide the new number. -/
theorem succ_mod_choices (values : List String) (n : Nat) :
    (n + 1) % choices values
        = (if n % choices values + 1 < values.length then n % choices values + 1 else 0)
      ∧ (choices values ∣ n + 1 ↔ ¬ n % choices values + 1 < values.length) := by
  have hlt : n % choices values < choices values := Nat.mod_lt n (choices_pos values)
  have hmod : (n + 1) % choices values = (n % choices values + 1) % choices values := by
    rw [Nat.mod_add_mod]
  have hvalues : choices values = max 1 values.length := rfl
  rw [Nat.dvd_iff_mod_eq_zero, hmod]
  generalize n % choices values = digit at hlt ⊢
  split
  case isTrue hroom =>
    rw [Nat.mod_eq_of_lt (by omega)]
    omega
  case isFalse hfull =>
    -- without values there is one choice, whose digit stays at 0
    have hround : digit + 1 = choices values := by omega
    rw [hround, Nat.mod_self]
    exact ⟨rfl, iff_of_true rfl (hround ▸ hfull)⟩

/-- **The odometer counts.** A step takes the digits of a number to those of the next one, and
carries out of the fields exactly where the number of their combinations divides that one. -/
theorem turn_digitsAt (fields : List (String × List String)) (i : Nat) :
    turn fields (digitsAt fields i) = (digitsAt fields (i + 1), decide (total fields ∣ i + 1)) := by
  induction fields with
  | nil => simp [turn, digitsAt]
  | cons field fields ih =>
    -- the fields behind this one carry into it exactly where their combinations are through
    obtain ⟨hdigit, hround⟩ := succ_mod_choices field.2 (i / total fields)
    rw [digitsAt, digitsAt, turn, ih, total_cons, Nat.mul_comm]
    by_cases hcarry : total fields ∣ i + 1
    · have hquotient : (i + 1) / total fields = i / total fields + 1 := Nat.succ_div_of_dvd hcarry
      have hcarries : total fields * choices field.2 ∣ i + 1
          ↔ ¬ i / total fields % choices field.2 + 1 < field.2.length := by
        rw [← hround, ← hquotient, Nat.dvd_div_iff_mul_dvd hcarry]
      by_cases hroom : i / total fields % choices field.2 + 1 < field.2.length <;>
        simp [hcarry, hquotient, hdigit, hcarries, hroom]
    · have hquotient : (i + 1) / total fields = i / total fields := Nat.succ_div_of_not_dvd hcarry
      have hstays : ¬ total fields * choices field.2 ∣ i + 1 :=
        fun h => hcarry ((Nat.dvd_mul_right ..).trans h)
      simp [hcarry, hquotient, hstays]

theorem advance_digitsAt (fields : List (String × List String)) (i : Nat) :
    advance fields (digitsAt fields i) = digitsAt fields (i + 1) := by
  rw [advance, turn_digitsAt]

/-- The odometer begins at zero. -/
theorem digitsAt_zero (fields : List (String × List String)) :
    digitsAt fields 0 = fields.map fun _ => 0 := by
  induction fields with
  | nil => rfl
  | cons field fields ih => rw [digitsAt, Nat.zero_div, Nat.zero_mod, ih, List.map_cons]

/-- The branches made from a number on are those of the numbers that follow it. -/
theorem branchesFrom_digitsAt (fields : List (String × List String)) (count i : Nat)
    (made : List Bindings) :
    branchesFrom fields count (digitsAt fields i) made
      = made.reverse ++ (List.range' i count).map fun i => bind fields (digitsAt fields i) := by
  induction count generalizing i made with
  | zero => simp [branchesFrom]
  | succ count ih =>
    rw [branchesFrom, advance_digitsAt, ih, List.range'_succ, List.map_cons, List.reverse_cons,
      List.append_assoc, List.singleton_append]

/-! ### All combinations, in order -/

theorem mem_combinations_iff {indices : List Nat} :
    indices ∈ combinations fields
      ↔ List.Forall₂ (fun i field => i < choices field.2) indices fields := by
  induction fields generalizing indices with
  | nil => simp [combinations]
  | cons field fields ih =>
    rw [combinations, List.mem_flatMap]
    constructor
    · rintro ⟨i, hi, hindices⟩
      obtain ⟨rest, hrest, rfl⟩ := List.mem_map.1 hindices
      exact .cons (List.mem_range.1 hi) (ih.1 hrest)
    · rintro (_ | ⟨hi, hrest⟩)
      exact ⟨_, List.mem_range.2 hi, List.mem_map_of_mem (ih.2 hrest)⟩

/-- The combinations come in lexicographic order, and none comes twice. -/
theorem pairwise_combinations (fields : List (String × List String)) :
    (combinations fields).Pairwise (· < ·) := by
  induction fields with
  | nil => exact List.pairwise_singleton _ _
  | cons field fields ih =>
    rw [combinations, List.pairwise_flatMap]
    refine ⟨fun i _ => ?_, List.pairwise_lt_range.imp fun {i j} hij => ?_⟩
    · exact List.pairwise_map.2 (ih.imp fun h => List.cons_lt_cons_iff.2 (.inr ⟨rfl, h⟩))
    · intro a ha b hb
      obtain ⟨a, -, rfl⟩ := List.mem_map.1 ha
      obtain ⟨b, -, rfl⟩ := List.mem_map.1 hb
      exact List.cons_lt_cons_iff.2 (.inl hij)

/-! ### Branches -/

theorem bind_cons (field : String × List String) (fields : List (String × List String))
    (i : Nat) (indices : List Nat) :
    (bind (field :: fields) (i :: indices)).entries
      = match field.2[i]? with
        | some value => (field.1, value) :: (bind fields indices).entries
        | none => (bind fields indices).entries := by
  simp only [bind, List.zip_cons_cons, List.filterMap_cons]
  cases field.2[i]? <;> rfl

/-- The branches are the bindings of the numbers below their count. -/
theorem branches_eq_map_range (plan : FanOut) (limit : Nat) :
    plan.branches limit = (List.range (min plan.branchCount (max 1 limit))).map
      fun i => bind plan.fields (digitsAt plan.fields i) := by
  rw [branches, ← digitsAt_zero, branchesFrom_digitsAt, List.range_eq_range', List.reverse_nil,
    List.nil_append]

/-- Counting stops at the greatest number of branches that is told apart. -/
theorem foldl_choices (fields : List (String × List String)) {count : Nat}
    (hcount : count ≤ maxBranchCount) :
    fields.foldl (fun count field => min maxBranchCount (count * choices field.2)) count
      = min maxBranchCount (count * total fields) := by
  induction fields generalizing count with
  | nil => simpa using hcount
  | cons field fields ih =>
    have hpos := total_pos fields
    rw [List.foldl_cons, ih (Nat.min_le_left ..), total_cons, ← Nat.mul_assoc]
    rcases Nat.le_total (count * choices field.2) maxBranchCount with hle | hle
    · rw [Nat.min_eq_right hle]
    · have hfull : maxBranchCount ≤ maxBranchCount * total fields := Nat.le_mul_of_pos_right _ hpos
      have hmore := Nat.mul_le_mul_right (total fields) hle
      rw [Nat.min_eq_left hle, Nat.min_eq_left hfull, Nat.min_eq_left (hfull.trans hmore)]

/-- **The number of branches is the number of combinations**, as far as it can be told. -/
theorem branchCount_eq (plan : FanOut) :
    plan.branchCount = min maxBranchCount (total plan.fields) := by
  rw [branchCount, foldl_choices _ (by decide), Nat.one_mul]

theorem branchCount_pos (plan : FanOut) : 0 < plan.branchCount := by
  have hpos := total_pos plan.fields
  rw [branchCount_eq, maxBranchCount]
  omega

/-- **The branches are the first combinations in order.** -/
theorem branches_eq (plan : FanOut) (limit : Nat) :
    plan.branches limit
      = ((combinations plan.fields).take (min plan.branchCount (max 1 limit))).map
        (bind plan.fields) := by
  have hle : min plan.branchCount (max 1 limit) ≤ total plan.fields := by
    rw [branchCount_eq]
    omega
  rw [branches_eq_map_range, combinations_eq, ← List.map_take, List.take_range,
    Nat.min_eq_left hle, List.map_map]
  rfl

theorem length_branches (plan : FanOut) (limit : Nat) :
    (plan.branches limit).length = min plan.branchCount (max 1 limit) := by
  rw [branches_eq_map_range, List.length_map, List.length_range]

/-! ### Bindings -/

/-- A combination binds each field that has values, in the order of the fields. -/
theorem map_fst_entries_bind {indices : List Nat} (h : indices ∈ combinations fields) :
    (bind fields indices).entries.map (·.1) = (fields.filter (·.2 ≠ [])).map (·.1) := by
  rw [mem_combinations_iff] at h
  induction h with
  | nil => rfl
  | @cons i field indices fields hi hindices ih =>
    rw [bind_cons]
    by_cases hvalues : field.2 = []
    · simpa [hvalues] using ih
    · have hlength : i < field.2.length := by
        have := List.length_pos_iff.2 hvalues
        rw [choices] at hi
        omega
      simpa [hvalues, List.getElem?_eq_getElem hlength] using ih

theorem mem_names_of_mem_entries {indices : List Nat} {entry : String × String}
    (h : entry ∈ (bind fields indices).entries) : entry.1 ∈ fields.map (·.1) := by
  obtain ⟨⟨field, i⟩, hmem, hsome⟩ := List.mem_filterMap.1 h
  obtain ⟨value, -, rfl⟩ := Option.map_eq_some_iff.1 hsome
  exact List.mem_map_of_mem (List.of_mem_zip hmem).1

/-- Where names differ, a field is bound to the value its choice stands for. -/
theorem lookup_entries_bind (hnames : (fields.map (·.1)).Nodup) {indices : List Nat} :
    ∀ p ∈ fields.zip indices, (bind fields indices).entries.lookup p.1.1 = p.1.2[p.2]? := by
  induction fields generalizing indices with
  | nil => simp
  | cons field fields ih =>
    obtain _ | ⟨i, indices⟩ := indices
    · simp
    have hnew : field.1 ∉ fields.map (·.1) := (List.nodup_cons.1 hnames).1
    have hnames : (fields.map (·.1)).Nodup := (List.nodup_cons.1 hnames).2
    intro p hp
    rw [bind_cons]
    rcases List.mem_cons.1 hp with rfl | hp
    · have hrest : (bind fields indices).entries.lookup field.1 = none := by
        rw [List.lookup_eq_none_iff]
        intro entry hentry
        have hname := mem_names_of_mem_entries hentry
        have hne : field.1 ≠ entry.1 := fun heq => hnew (heq ▸ hname)
        simpa using hne
      cases hvalue : field.2[i]? with
      | none => exact hrest
      | some value => exact List.lookup_cons_self
    · have hne : (p.1.1 == field.1) = false := by
        have hname : p.1.1 ∈ fields.map (·.1) := List.mem_map_of_mem (List.of_mem_zip hp).1
        have hne : p.1.1 ≠ field.1 := fun heq => hnew (heq ▸ hname)
        simpa using hne
      cases field.2[i]? with
      | none => exact ih hnames p hp
      | some value =>
        rw [List.lookup_cons, hne]
        exact ih hnames p hp

/-- A combination has a choice for each field. -/
theorem exists_mem_zip {indices : List Nat} (h : indices ∈ combinations fields)
    (hfield : field ∈ fields) : ∃ i < choices field.2, (field, i) ∈ fields.zip indices := by
  rw [mem_combinations_iff] at h
  induction h with
  | nil => exact absurd hfield List.not_mem_nil
  | @cons i first indices fields hi hindices ih =>
    rcases List.mem_cons.1 hfield with rfl | hfield
    · exact ⟨i, hi, List.mem_cons_self⟩
    · obtain ⟨j, hj, hmem⟩ := ih hfield
      exact ⟨j, hj, List.mem_cons_of_mem _ hmem⟩

/-! ### Limits -/

/-- A smaller limit keeps a beginning of the branches. -/
theorem branches_prefix (plan : FanOut) {limit larger : Nat} (h : limit ≤ larger) :
    plan.branches limit <+: plan.branches larger := by
  rw [branches_eq, branches_eq]
  exact (List.take_prefix_take_left (by omega)).map _

/-- A limit that is not exceeded leaves all combinations. -/
theorem branches_of_total_le (plan : FanOut) {limit : Nat}
    (h : total plan.fields ≤ min maxBranchCount (max 1 limit)) :
    plan.branches limit = (combinations plan.fields).map (bind plan.fields) := by
  rw [branches_eq, List.take_of_length_le]
  rw [length_combinations, branchCount_eq]
  omega

end FanOut

end TitleScript
