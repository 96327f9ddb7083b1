import Mathlib.Data.List.Nodup
import Mathlib.Data.List.Pairwise
import TitleScript.Proofs.Name.Characters
import TitleScript.Proofs.Registry

/-!
# The names of the built-in functions

A built-in function is found by name in two ways. The catalogue goes by the lower case of ASCII and
a table of aliases. The standard registry goes by the lower case of all scripts and has an entry
for each name in a list. The names, the aliases and the list are written down separately.

They fit together. The list has exactly the names and the aliases, and none of these has the small
k, which is the lower case of the Kelvin sign as well. So the two lower cases cannot lead to
different functions.

## Main definitions

* `Builtin.isPlain` — the characters that occur in names of built-in functions

## Main results

* `Builtin.tables_agree` — names, aliases and the list of accepted names
* `Builtin.ofName?_eq_some_iff` — the catalogue finds a function by its names and no others
* `Builtin.mem_allNames_iff` — the names that are accepted are those of the functions
* `Registry.getElem?_builtins`, `Registry.function?_name` — the entries of the standard registry
* `function?_standard` — the standard registry finds what the catalogue finds
-/

namespace TitleScript

namespace Builtin

variable {b : Builtin} {name : String}

/-! ### The tables -/

/-- Digits, the underscore, and the small letters of ASCII without the k. -/
def isPlain (c : Char) : Bool :=
  c == '_' || (48 ≤ c.toNat && c.toNat < 58) || (97 ≤ c.toNat && c.toNat < 123 && c != 'k')

/-- **The tables fit together.** The aliases of a function stand for its name, and the list has the
names and the aliases of all functions, in their order and none twice. -/
theorem tables_agree :
    (∀ b ∈ all, ∀ name ∈ b.names, canonicalName name = b.name)
      ∧ allNames = all.flatMap names
      ∧ allNames.Nodup
      ∧ ∀ name ∈ allNames, name ≠ "" ∧ name.toList.all isPlain := by
  decide +kernel

/-- Every name of a function stands for the name that scripts call it by. -/
theorem canonicalName_of_mem_names (h : name ∈ b.names) : canonicalName name = b.name :=
  tables_agree.1 b b.mem_all name h

/-- **The names that are accepted** are the names of the functions. -/
theorem mem_allNames_iff : name ∈ allNames ↔ ∃ b : Builtin, name ∈ b.names := by
  rw [tables_agree.2.1, List.mem_flatMap]
  simp only [mem_all, true_and]

/-- No name is that of two functions. -/
theorem name_injective {b b' : Builtin} (h : b.name = b'.name) : b = b' := by
  have hnodup := tables_agree.2.2.1
  rw [tables_agree.2.1, List.nodup_flatMap] at hnodup
  by_contra hne
  have hsymm : Std.Symm (Function.onFun List.Disjoint names) := ⟨fun _ _ h _ ha hb => h hb ha⟩
  have hdisjoint : b.names.Disjoint b'.names := hnodup.2.forall b.mem_all b'.mem_all hne
  exact hdisjoint List.mem_cons_self (h ▸ List.mem_cons_self)

/-- A name that stands for the name of a function is a name of it. -/
theorem mem_names_of_canonicalName (h : canonicalName name = b.name) : name ∈ b.names := by
  unfold canonicalName at h
  split at h
  · obtain rfl : left = b := name_injective h
    decide
  · obtain rfl : length = b := name_injective h
    decide
  · obtain rfl : middle = b := name_injective h
    decide
  · rw [h]
    exact List.mem_cons_self

/-- **The catalogue finds a function by its names** in capital or small letters of ASCII. -/
theorem ofName?_eq_some_iff : ofName? name = some b ↔ name.map Char.toLower ∈ b.names := by
  constructor
  · intro h
    have hfound := List.find?_some h
    rw [beq_iff_eq] at hfound
    exact mem_names_of_canonicalName hfound.symm
  · intro h
    have hname := canonicalName_of_mem_names h
    rw [ofName?, hname]
    cases hfound : all.find? (·.name == b.name) with
    | none =>
      have hnot := List.find?_eq_none.1 hfound b b.mem_all
      simp at hnot
    | some b' =>
      have heq := List.find?_some hfound
      rw [beq_iff_eq] at heq
      rw [name_injective heq]

/-! ### The characters of the names -/

theorem isPlain_of_mem (h : name ∈ allNames) : ∀ c ∈ name.toList, isPlain c :=
  List.all_eq_true.1 (tables_agree.2.2.2 name h).2

section Plain

variable {c : Char}

theorem isAscii_of_isPlain (h : isPlain c) : isAscii c ∧ c ≠ 'k' := by
  simp only [isPlain, Bool.or_eq_true, Bool.and_eq_true, beq_iff_eq, bne_iff_ne,
    decide_eq_true_eq] at h
  rw [isAscii, decide_eq_true_eq]
  obtain (rfl | ⟨hle, hlt⟩) | ⟨⟨hle, hlt⟩, hne⟩ := h
  · decide
  · exact ⟨by omega, by rintro rfl; exact absurd hlt (by decide)⟩
  · exact ⟨by omega, hne⟩

theorem toLower_of_isPlain (h : isPlain c) : c.toLower = c := by
  simp only [isPlain, Bool.or_eq_true, Bool.and_eq_true, beq_iff_eq, bne_iff_ne,
    decide_eq_true_eq] at h
  refine toLower_of_not_capital fun hcapital => ?_
  obtain (rfl | hdigit) | ⟨hletter, -⟩ := h
  · exact absurd hcapital (by decide)
  · omega
  · omega

theorem isNameChar_of_isPlain (h : isPlain c) : isNameChar c := by
  obtain ⟨hdigits, hletters⟩ := nameTables.stretches
  simp only [isPlain, Bool.or_eq_true, Bool.and_eq_true, beq_iff_eq, bne_iff_ne,
    decide_eq_true_eq] at h
  rw [isNameChar, Bool.or_eq_true, beq_iff_eq]
  obtain (hunderscore | ⟨hle, hlt⟩) | ⟨⟨hle, hlt⟩, -⟩ := h
  · exact .inr hunderscore
  · exact .inl (ScalarSet.contains_of_mem_stretches hdigits hle hlt)
  · exact .inl (ScalarSet.contains_of_mem_stretches hletters hle hlt)

end Plain

/-- The names that are accepted can be called. -/
theorem isCallable_of_mem_allNames (h : name ∈ allNames) : isCallable name := by
  rw [isCallable, Bool.and_eq_true, List.all_eq_true]
  refine ⟨?_, fun c hc => isNameChar_of_isPlain (isPlain_of_mem h c hc)⟩
  simpa using (tables_agree.2.2.2 name h).1

theorem map_toLower_of_mem_allNames (h : name ∈ allNames) : name.map Char.toLower = name := by
  rw [← String.toList_inj, String.toList_map]
  have hsame : ∀ c ∈ name.toList, c.toLower = id c :=
    fun c hc => toLower_of_isPlain (isPlain_of_mem h c hc)
  rw [List.map_congr_left hsame, List.map_id]

/-! ### Both lower cases -/

theorem ofName?_of_map_toLower {lower : String} (h : name.map Char.toLower = lower)
    (hlower : lower ∈ allNames) : ofName? name = ofName? lower := by
  rw [ofName?, ofName?, h, map_toLower_of_mem_allNames hlower]

/-- Accepted names are the lower case of the same texts in ASCII and in all scripts. -/
theorem lowerName_eq_iff {lower : String} (h : lower ∈ allNames) :
    lowerName name = lower ↔ name.map Char.toLower = lower := by
  rw [← String.toList_inj, ← String.toList_inj, toList_lowerName, String.toList_map]
  exact LowerCase.chars_eq_iff_of_ascii fun c hc => isAscii_of_isPlain (isPlain_of_mem h c hc)

/-- The names that are accepted are in lower case. -/
theorem lowerName_of_mem_allNames (h : name ∈ allNames) : lowerName name = name :=
  (lowerName_eq_iff h).2 (map_toLower_of_mem_allNames h)

end Builtin

/-! ### The standard registry -/

namespace Registry

/-- **The standard registry has an entry for each accepted name.** -/
theorem getElem?_builtins (name : String) :
    builtins[name]?
      = if name ∈ Builtin.allNames then (Builtin.ofName? name).map .ofBuiltin else none := by
  split
  · next hlisted =>
    obtain ⟨b, hb⟩ := Builtin.mem_allNames_iff.1 hlisted
    have hfound : Builtin.ofName? name = some b := by
      rw [Builtin.ofName?_eq_some_iff, Builtin.map_toLower_of_mem_allNames hlisted]
      exact hb
    have hentry : (name, Function.ofBuiltin b) ∈ Builtin.allNames.filterMap fun name =>
        (Builtin.ofName? name).map fun b => (name, Function.ofBuiltin b) :=
      List.mem_filterMap.2 ⟨name, hlisted, by rw [hfound]; rfl⟩
    rw [hfound]
    refine Std.ExtTreeMap.getElem?_ofList_of_mem Std.ReflCmp.compare_self ?_ hentry
    refine List.Pairwise.filterMap _ (fun name other hne entry hentry entry' hentry' => ?_)
      Builtin.tables_agree.2.2.1
    obtain ⟨b, -, rfl⟩ := Option.map_eq_some_iff.1 hentry
    obtain ⟨b', -, rfl⟩ := Option.map_eq_some_iff.1 hentry'
    rw [Std.LawfulEqCmp.compare_eq_iff_eq]
    exact hne
  · next hunlisted =>
    refine Option.eq_none_iff_forall_ne_some.2 fun f hf => ?_
    exact hunlisted (exists_of_getElem?_builtins hf).1

/-- A registry whose functions are the built-in ones finds each of them by its name. -/
theorem function?_name {r : Registry} (h : r.functions = builtins) (b : Builtin) :
    r.function? b.name = some (.ofBuiltin b) := by
  have hlisted : b.name ∈ Builtin.allNames := Builtin.mem_allNames_iff.2 ⟨b, List.mem_cons_self⟩
  have hnormal : normalizeName b.name = b.name := by
    rw [normalizeName_of_forall_isNameChar fun c hc =>
      Builtin.isNameChar_of_isPlain (Builtin.isPlain_of_mem hlisted c hc),
      Builtin.lowerName_of_mem_allNames hlisted]
  have hfound : Builtin.ofName? b.name = some b := by
    rw [Builtin.ofName?_eq_some_iff, Builtin.map_toLower_of_mem_allNames hlisted]
    exact List.mem_cons_self
  rw [function?, h, hnormal, getElem?_builtins, if_pos hlisted, hfound]
  rfl

end Registry

/-- **The standard registry finds the function that the catalogue finds**, for every text of
letters, digits and underscores, of whatever script. Both find a function under its name and its
aliases in any case, and these are the names that are accepted. -/
theorem function?_standard {name : String} (h : ∀ c ∈ name.toList, isNameChar c) :
    Registry.standard.function? name = (Builtin.ofName? name).map .ofBuiltin
      ∧ (∀ b, Builtin.ofName? name = some b ↔ lowerName name ∈ b.names)
      ∧ ((Builtin.ofName? name).isSome ↔ lowerName name ∈ Builtin.allNames) := by
  have hlower (b : Builtin) : name.map Char.toLower ∈ b.names ↔ lowerName name ∈ b.names := by
    constructor
    · intro hb
      have hlisted := Builtin.mem_allNames_iff.2 ⟨b, hb⟩
      rwa [(Builtin.lowerName_eq_iff hlisted).2 rfl]
    · intro hb
      have hlisted := Builtin.mem_allNames_iff.2 ⟨b, hb⟩
      rwa [(Builtin.lowerName_eq_iff hlisted).1 rfl]
  have hsome (b : Builtin) : Builtin.ofName? name = some b ↔ lowerName name ∈ b.names :=
    Builtin.ofName?_eq_some_iff.trans (hlower b)
  have hlisted : (Builtin.ofName? name).isSome ↔ lowerName name ∈ Builtin.allNames := by
    rw [Option.isSome_iff_exists, Builtin.mem_allNames_iff]
    exact exists_congr hsome
  refine ⟨?_, hsome, hlisted⟩
  have hentry : Registry.standard.function? name = Registry.builtins[lowerName name]? := by
    rw [Registry.function?, normalizeName_of_forall_isNameChar h]
    rfl
  rw [hentry, Registry.getElem?_builtins]
  split
  · next hmem =>
    have hmap := (Builtin.lowerName_eq_iff hmem).1 rfl
    rw [Builtin.ofName?_of_map_toLower hmap hmem]
  · next hnot =>
    rw [Option.not_isSome_iff_eq_none.1 fun hfound => hnot (hlisted.1 hfound)]
    rfl

/-- An alias in mixed case, and a name with a letter whose lower case begins with one of ASCII. -/
theorem function?_standard_mixed :
    Registry.standard.function? "SubString" = some (.ofBuiltin .middle)
      ∧ Registry.standard.function? "İF" = none := by
  have hascii : "SubString".toList.all isNameChar := by decide +kernel
  have hdotted : "İF".toList.all isNameChar := by decide +kernel
  obtain ⟨hfound, hnames, -⟩ := function?_standard (List.all_eq_true.1 hascii)
  obtain ⟨hnone, -, hlisted⟩ := function?_standard (List.all_eq_true.1 hdotted)
  have halias : Builtin.ofName? "SubString" = some .middle := (hnames _).2 (by decide +kernel)
  have hunknown : ¬ (Builtin.ofName? "İF").isSome := by
    rw [hlisted]
    decide +kernel
  rw [hfound, hnone, halias, Option.not_isSome_iff_eq_none.1 hunknown]
  exact ⟨rfl, rfl⟩

end TitleScript
