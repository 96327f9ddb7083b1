import TitleScript.Lint
import TitleScript.Proofs.Lint.Suggestion
import TitleScript.Proofs.Name.Entries
import TitleScript.Proofs.Registry.Builtins
import TitleScript.Proofs.Registry.Spelling
import TitleScript.Proofs.Script.Preorder

/-!
# The names that a registry lists

A registry lists its names in lower case, and the suggestions in warnings are among those. A name
is checked before it is put into lower case. So what is listed could be something that no script
can say.

For fields this does not happen. For functions it does where lower case brings up a combining dot:
a function named by the capital I with a dot above is found under the name that is listed for it,
but that name cannot be called. All other names that are listed can be called, too.

## Main definitions

* `Registry.WellNamed` — the names of a registry are names in lower case that were accepted
* `Registry.FieldUsable`, `Registry.FunctionUsable` — a name is known and can be written in a script
* `Warning.SuggestsListed` — a warning suggests listed names only

## Main results

* `Registry.wellNamed_run` — the registries that can be made are well named
* `Registry.WellNamed.fieldUsable`, `Registry.WellNamed.functionUsable_iff` — which listed names are
  usable
* `Script.suggestsListed_of_mem_warnings` — suggestions are listed names
* `listed_names_usable` — what is listed or suggested is usable, combining dots apart
* `listed_name_unusable` — a name that is listed and suggested and cannot be called
-/

namespace TitleScript

namespace Registry

/-- All names of a registry are names in lower case that were accepted as they had been written. -/
structure WellNamed (r : Registry) : Prop where
  /-- Names of fields have their normalized form. -/
  field : ∀ key ∈ r.fields, ∃ name, isReferenceable (Text.trim name) ∧ normalizeName name = key
  /-- Names of functions are in lower case. -/
  function : ∀ key ∈ r.functions, ∃ name, isCallable name ∧ lowerName name = key

/-- The name can be written as that of a field, and the registry lists the field. -/
def FieldUsable (r : Registry) (name : String) : Prop :=
  Script.Spells ("%" ++ name ++ "%") (.field · name) ∧ (r.fieldKind? name).isSome

/-- The name can be called, and the registry knows the function. -/
def FunctionUsable (r : Registry) (name : String) : Prop :=
  Script.Spells ("$" ++ name ++ "()") (.call · name []) ∧ (r.function? name).isSome

/-! ### Registries that can be made -/

theorem wellNamed_empty : WellNamed .empty where
  field _ h := absurd h Std.ExtTreeMap.not_mem_empty
  function _ h := absurd h Std.ExtTreeMap.not_mem_empty

theorem wellNamed_standard : WellNamed .standard where
  field _ h := absurd h Std.ExtTreeMap.not_mem_empty
  function key h := by
    obtain ⟨f, hf⟩ := Option.isSome_iff_exists.1 (Std.ExtTreeMap.isSome_getElem?_iff_mem.2 h)
    have hlisted := (exists_of_getElem?_builtins hf).1
    exact ⟨key, Builtin.isCallable_of_mem_allNames hlisted,
      Builtin.lowerName_of_mem_allNames hlisted⟩

theorem invariant_wellNamed : Invariant WellNamed where
  field _ name _ h hname := ⟨forall_mem_insert ⟨name, hname, rfl⟩ h.field, h.function⟩
  function _ name _ h hname := ⟨h.field, forall_mem_insert ⟨name, hname, rfl⟩ h.function⟩
  close _ h := ⟨h.field, h.function⟩

/-- **Every registry that can be made is well named.** -/
theorem wellNamed_run {start : Registry} (h : start = .empty ∨ start = .standard)
    (changes : List Change) : (start.run changes).WellNamed := by
  rcases h with rfl | rfl
  · exact invariant_wellNamed.run wellNamed_empty changes
  · exact invariant_wellNamed.run wellNamed_standard changes

/-! ### Listed names -/

namespace WellNamed

variable {r : Registry} {name : String}

/-- **The listed fields are usable.** -/
theorem fieldUsable (h : r.WellNamed) (hname : name ∈ r.fieldNames) : r.FieldUsable name := by
  rw [fieldNames, Std.ExtTreeMap.mem_keys] at hname
  obtain ⟨written, hwritten, rfl⟩ := h.field name hname
  refine ⟨Script.spells_field_iff.2 (isReferenceable_normalizeName hwritten), ?_⟩
  rw [fieldKind?, normalizeName_normalizeName, Std.ExtTreeMap.isSome_getElem?_iff_mem]
  exact hname

/-- The listed functions are known under their listed names. -/
theorem isSome_function? (h : r.WellNamed) (hname : name ∈ r.functionNames) :
    (r.function? name).isSome := by
  rw [functionNames, Std.ExtTreeMap.mem_keys] at hname
  obtain ⟨written, hwritten, rfl⟩ := h.function name hname
  rw [function?, normalizeName_lowerName, normalizeName_of_isCallable hwritten,
    Std.ExtTreeMap.isSome_getElem?_iff_mem]
  exact hname

/-- **The listed functions are usable**, those with a combining dot in their names apart. -/
theorem functionUsable_iff (h : r.WellNamed) (hname : name ∈ r.functionNames) :
    r.FunctionUsable name ↔ combiningDot ∉ name.toList := by
  have hsome := h.isSome_function? hname
  rw [functionNames, Std.ExtTreeMap.mem_keys] at hname
  obtain ⟨written, hwritten, rfl⟩ := h.function name hname
  rw [FunctionUsable, Script.spells_call_iff, isCallable_lowerName_iff hwritten]
  exact and_iff_left hsome

end WellNamed

end Registry

/-! ### Suggested names -/

/-- The names that a warning suggests are listed in the registry. -/
def Warning.SuggestsListed (r : Registry) : Warning → Prop
  | .unknownField _ _ names => names ⊆ r.fieldNames
  | .unknownFunction _ _ names => names ⊆ r.functionNames
  | .argumentCount .. | .listOfSingleValue .. | .alwaysShown .. => True

theorem Registry.suggestsListed_of_mem_fieldWarnings {r : Registry} {p : Nat} {name : String}
    {w : Warning} (h : w ∈ r.fieldWarnings p name) : w.SuggestsListed r := by
  rw [fieldWarnings] at h
  split at h
  · exact absurd h List.not_mem_nil
  · obtain rfl := List.mem_singleton.1 h
    exact suggestions_subset _ _

/-- **Suggestions are listed names.** -/
theorem Script.suggestsListed_of_mem_warnings {s : Script} {r : Registry} {w : Warning}
    (h : w ∈ s.warnings r) : w.SuggestsListed r := by
  obtain ⟨node, -, hown⟩ := mem_warnings.1 h
  cases node with
  | literal p text | quoted p text => exact absurd hown List.not_mem_nil
  | field p name => exact Registry.suggestsListed_of_mem_fieldWarnings hown
  | fieldList p name =>
    rw [Node.ownWarnings, Registry.fieldListWarnings] at hown
    split at hown
    · obtain rfl := List.mem_singleton.1 hown
      trivial
    · exact Registry.suggestsListed_of_mem_fieldWarnings hown
  | call p name args =>
    rw [Node.ownWarnings, Registry.callWarnings] at hown
    split at hown
    · obtain rfl := List.mem_singleton.1 hown
      exact suggestions_subset _ _
    · split at hown
      · exact absurd hown List.not_mem_nil
      · obtain rfl := List.mem_singleton.1 hown
        trivial
  | group p content =>
    rw [Node.ownWarnings, Node.groupWarnings] at hown
    split at hown
    · exact absurd hown List.not_mem_nil
    · obtain rfl := List.mem_singleton.1 hown
      trivial

/-! ### Every name that is shown -/

/-- **What a registry lists, and what its warnings suggest, is usable**: the names of fields always,
and the names of functions as long as lower case has brought up no combining dot. A function with
such a name is found under it all the same. -/
theorem listed_names_usable {start : Registry} (hstart : start = .empty ∨ start = .standard)
    (changes : List Registry.Change) :
    let r := start.run changes
    (∀ name ∈ r.fieldNames, r.FieldUsable name)
      ∧ (∀ name ∈ r.functionNames,
        (r.function? name).isSome ∧ (r.FunctionUsable name ↔ combiningDot ∉ name.toList))
      ∧ ∀ s : Script, ∀ w ∈ s.warnings r,
        (∀ written p names, w = .unknownField written p names →
            ∀ name ∈ names, r.FieldUsable name)
          ∧ ∀ written p names, w = .unknownFunction written p names →
            ∀ name ∈ names,
              (r.function? name).isSome ∧ (r.FunctionUsable name ↔ combiningDot ∉ name.toList) := by
  intro r
  have h : r.WellNamed := Registry.wellNamed_run hstart changes
  have hfields : ∀ name ∈ r.fieldNames, r.FieldUsable name := fun _ => h.fieldUsable
  have hfunctions : ∀ name ∈ r.functionNames,
      (r.function? name).isSome ∧ (r.FunctionUsable name ↔ combiningDot ∉ name.toList) :=
    fun _ hname => ⟨h.isSome_function? hname, h.functionUsable_iff hname⟩
  refine ⟨hfields, hfunctions, fun s w hw => ⟨?_, ?_⟩⟩
  · rintro written p names rfl name hname
    exact hfields name (Script.suggestsListed_of_mem_warnings hw hname)
  · rintro written p names rfl name hname
    exact hfunctions name (Script.suggestsListed_of_mem_warnings hw hname)

/-- A registry with letters outside of ASCII in its names, one of which is suggested. -/
theorem listed_names_usable_letters :
    let r := Registry.empty.run [.addFunction "Größe" (.ofBuiltin .length),
      .addFields [" Œuvre\t", "a%b"] .single, .addField " Œuvre\t" .multi, .close]
    r.fieldNames = ["œuvre"]
      ∧ r.FieldUsable "œuvre"
      ∧ (Script.parse "$Grösse(x)").warnings r = [.unknownFunction "Grösse" 0 ["größe"]]
      ∧ r.FunctionUsable "größe" := by
  intro r
  obtain ⟨hfields, -, hwarnings⟩ := listed_names_usable (.inl rfl)
    [.addFunction "Größe" (.ofBuiltin .length), .addFields [" Œuvre\t", "a%b"] .single,
      .addField " Œuvre\t" .multi, .close]
  have hlisted : r.fieldNames = ["œuvre"] := by decide +kernel
  have hwarned : (Script.parse "$Grösse(x)").warnings r
      = [.unknownFunction "Grösse" 0 ["größe"]] := by decide +kernel
  have hsuggested := (hwarnings _ _ (hwarned ▸ List.mem_cons_self)).2 _ _ _ rfl "größe"
    List.mem_cons_self
  exact ⟨hlisted, hfields _ (hlisted ▸ List.mem_cons_self), hwarned,
    hsuggested.2.2 (by decide +kernel)⟩

/-- The function is known under a name that is listed and suggested and cannot be called: the
combining dot ends the name. -/
theorem listed_name_unusable :
    let r := Registry.empty.run [.addFunction "İ" (.ofBuiltin .lineBreak)]
    r.functionNames = ["i\u0307"]
      ∧ (r.function? "i\u0307").isSome
      ∧ (Script.parse "$i\u0307()").faults = [⟨0, "$i", .expectedParenthesis⟩]
      ∧ ¬ r.FunctionUsable "i\u0307"
      ∧ (Script.parse "$i()").warnings r = [.unknownFunction "i" 0 ["i\u0307"]] := by
  intro r
  have hfaults : (Script.parse "$i\u0307()").faults = [⟨0, "$i", .expectedParenthesis⟩] := by
    decide +kernel
  refine ⟨by decide +kernel, by decide +kernel, hfaults, ?_, by decide +kernel⟩
  rintro ⟨⟨hnone, -⟩, -⟩
  rw [show "$" ++ "i\u0307" ++ "()" = "$i\u0307()" from rfl, hfaults] at hnone
  contradiction

end TitleScript
