import Std.Data.ExtTreeMap
import TitleScript.Name

/-!
# Entries by name

Registries and tracks are tables by normalized names, and they are filled from entries whose names
are as written. Several entries can name the same thing in different spellings. What a table has for
a name in the end is what the last of the entries says that name it in any spelling; if there is
none, it is what the table had before.

## Main definitions

* `valuesUnder` — what the entries say that name one thing
* `enter` — a table with entries put in one after another

## Main results

* `getElem?_enter` — the last entry of a name wins
* `forall_mem_enter` — what holds of every normalized name, holds of the names of a filled table
* `enter_toList` — a table whose names are normalized is filled from its own entries as it was
-/

namespace TitleScript

variable {α : Type} {key : String} {entries : List (String × α)}

/-! ### What entries say about a name -/

/-- The values of the entries whose names have the normalized form `key`, in the order of the
entries. -/
def valuesUnder (key : String) (entries : List (String × α)) : List α :=
  (entries.filter fun entry => normalizeName entry.1 == key).map (·.2)

@[simp]
theorem valuesUnder_nil (key : String) : valuesUnder key ([] : List (String × α)) = [] := rfl

theorem valuesUnder_cons_of_eq {entry : String × α} (h : normalizeName entry.1 = key) :
    valuesUnder key (entry :: entries) = entry.2 :: valuesUnder key entries := by
  rw [valuesUnder, List.filter_cons_of_pos (by rw [h, beq_self_eq_true]), List.map_cons,
    valuesUnder]

theorem valuesUnder_cons_of_ne {entry : String × α} (h : normalizeName entry.1 ≠ key) :
    valuesUnder key (entry :: entries) = valuesUnder key entries := by
  rw [valuesUnder, List.filter_cons_of_neg (by simpa using h), valuesUnder]

theorem valuesUnder_eq_nil_iff :
    valuesUnder key entries = [] ↔ ∀ entry ∈ entries, normalizeName entry.1 ≠ key := by
  rw [valuesUnder, List.map_eq_nil_iff, List.filter_eq_nil_iff]
  simp only [beq_iff_eq]

theorem mem_valuesUnder {value : α} :
    value ∈ valuesUnder key entries
      ↔ ∃ entry ∈ entries, normalizeName entry.1 = key ∧ entry.2 = value := by
  simp only [valuesUnder, List.mem_map, List.mem_filter, beq_iff_eq, and_assoc]

/-! ### Tables that are filled -/

/-- The table with the entries put in one after another, each under its normalized name. -/
def enter (table : Std.ExtTreeMap String α) (entries : List (String × α)) :
    Std.ExtTreeMap String α :=
  entries.foldl (fun table entry => table.insert (normalizeName entry.1) entry.2) table

@[simp]
theorem enter_nil (table : Std.ExtTreeMap String α) : enter table [] = table := rfl

theorem enter_cons (table : Std.ExtTreeMap String α) (entry : String × α) :
    enter table (entry :: entries)
      = enter (table.insert (normalizeName entry.1) entry.2) entries := rfl

theorem enter_append (table : Std.ExtTreeMap String α) (first second : List (String × α)) :
    enter table (first ++ second) = enter (enter table first) second :=
  List.foldl_append

/-- **The last entry of a name wins**, whatever its spelling, and a name without an entry keeps what
it had. -/
theorem getElem?_enter (table : Std.ExtTreeMap String α) (entries : List (String × α))
    (key : String) :
    (enter table entries)[key]? = (valuesUnder key entries).getLast?.or table[key]? := by
  induction entries generalizing table with
  | nil => rfl
  | cons entry entries ih =>
    rw [enter_cons, ih, Std.ExtTreeMap.getElem?_insert]
    by_cases h : normalizeName entry.1 = key
    · rw [valuesUnder_cons_of_eq h, List.getLast?_cons, h, if_pos Std.ReflCmp.compare_self]
      cases (valuesUnder key entries).getLast? <;> rfl
    · rw [valuesUnder_cons_of_ne h, if_neg (by rwa [Std.LawfulEqCmp.compare_eq_iff_eq])]

/-- What holds of a new name and of all that were there holds of all names after an insertion. -/
theorem forall_mem_insert {table : Std.ExtTreeMap String α} {P : String → Prop} {name : String}
    {value : α} (hname : P name) (htable : ∀ key ∈ table, P key) :
    ∀ key ∈ table.insert name value, P key := by
  intro key hkey
  rw [Std.ExtTreeMap.mem_insert, Std.LawfulEqCmp.compare_eq_iff_eq] at hkey
  rcases hkey with rfl | hkey
  · exact hname
  · exact htable key hkey

theorem forall_mem_enter {table : Std.ExtTreeMap String α} {P : String → Prop}
    (hnames : ∀ name, P (normalizeName name)) (htable : ∀ key ∈ table, P key)
    (entries : List (String × α)) : ∀ key ∈ enter table entries, P key := by
  induction entries generalizing table with
  | nil => exact htable
  | cons entry entries ih =>
    rw [enter_cons]
    exact ih (forall_mem_insert (hnames entry.1) htable)

/-! ### Tables from their entries -/

theorem ofList_toList (table : Std.ExtTreeMap String α) :
    Std.ExtTreeMap.ofList table.toList = table := by
  refine Std.ExtTreeMap.ext_getElem? fun key => ?_
  cases hget : table[key]? with
  | none =>
    have hnot : key ∉ table := (getElem?_eq_none_iff table key).1 hget
    refine Std.ExtTreeMap.getElem?_ofList_of_contains_eq_false ?_
    rw [Std.ExtTreeMap.map_fst_toList_eq_keys, Std.ExtTreeMap.contains_keys]
    exact Bool.eq_false_iff.2 (mt Std.ExtTreeMap.mem_iff_contains.2 hnot)
  | some value =>
    exact Std.ExtTreeMap.getElem?_ofList_of_mem Std.ReflCmp.compare_self
      Std.ExtTreeMap.distinct_keys_toList (Std.ExtTreeMap.mem_toList_iff_getElem?_eq_some.2 hget)

/-- A table whose names are normalized is made again by its own entries. -/
theorem enter_toList {table : Std.ExtTreeMap String α}
    (h : ∀ key ∈ table, normalizeName key = key) : enter ∅ table.toList = table := by
  have hentry {entry : String × α} (hmem : entry ∈ table.toList) :
      normalizeName entry.1 = entry.1 ∧ table[entry.1]? = some entry.2 := by
    have hget := Std.ExtTreeMap.mem_toList_iff_getElem?_eq_some.1 hmem
    exact ⟨h entry.1 (Std.ExtTreeMap.isSome_getElem?_iff_mem.1 (by rw [hget]; rfl)), hget⟩
  refine Std.ExtTreeMap.ext_getElem? fun key => ?_
  rw [getElem?_enter, Std.ExtTreeMap.getElem?_empty, Option.or_none]
  cases hvalues : (valuesUnder key table.toList).getLast? with
  | none =>
    have hnil := valuesUnder_eq_nil_iff.1 (List.getLast?_eq_none_iff.1 hvalues)
    refine (Option.eq_none_iff_forall_ne_some.2 fun value hvalue => ?_).symm
    have hmem := Std.ExtTreeMap.mem_toList_iff_getElem?_eq_some.2 hvalue
    exact hnil (key, value) hmem (hentry hmem).1
  | some value =>
    obtain ⟨entry, hmem, hname, rfl⟩ := mem_valuesUnder.1 (List.mem_of_getLast? hvalues)
    obtain ⟨hnormal, hget⟩ := hentry hmem
    rw [← hname, hnormal, hget]

end TitleScript
