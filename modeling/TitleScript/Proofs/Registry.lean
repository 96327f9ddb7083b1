import TitleScript.Proofs.Evaluation

/-!
# Registries of built-in functions

What a registry knows is decided by its caller, and a function supplied by the host can compute
anything. Statements about what scripts compute are often about registries without such functions.
The names and the numbers of arguments of the built-in functions are free in them.

## Main definitions

* `Registry.OnlyBuiltins` — every function of the registry is a built-in one

## Main results

* `Registry.onlyBuiltins_standard` — the standard registry knows no other functions
* `Registry.OnlyBuiltins.ignoresLimit` — what scripts compute is independent of the branch limit
-/

namespace TitleScript

namespace Registry

/-- Every function of the registry is a built-in one, under whatever name. -/
def OnlyBuiltins (r : Registry) : Prop :=
  ∀ (name : String) (f : Function), r.function? name = some f → ∃ b, f.body = .builtin b

theorem mem_of_getElem?_ofList {l : List (String × Function)} {name : String} {f : Function}
    (h : (Std.ExtTreeMap.ofList l compare)[name]? = some f) : (name, f) ∈ l := by
  rw [Std.ExtTreeMap.ofList_eq_insertMany_empty, Std.ExtTreeMap.getElem?_insertMany_list,
    Std.ExtTreeMap.getElem?_empty, Option.or_none, List.findSomeRev?_eq_findSome?_reverse] at h
  obtain ⟨⟨name', f'⟩, hmem, hfound⟩ := List.exists_of_findSome?_eq_some h
  have hboth : name' = name ∧ f' = f := by simpa using hfound
  obtain ⟨rfl, rfl⟩ := hboth
  exact List.mem_reverse.1 hmem

/-- A function of the standard registry is the built-in one that its name stands for. -/
theorem exists_of_getElem?_builtins {name : String} {f : Function} (h : builtins[name]? = some f) :
    name ∈ Builtin.allNames ∧ ∃ b, Builtin.ofName? name = some b ∧ f = .ofBuiltin b := by
  obtain ⟨listed, hlisted, hentry⟩ := List.mem_filterMap.1 (mem_of_getElem?_ofList h)
  obtain ⟨b, hb, heq⟩ := Option.map_eq_some_iff.1 hentry
  obtain ⟨rfl, rfl⟩ : listed = name ∧ Function.ofBuiltin b = f := Prod.mk.inj heq
  exact ⟨hlisted, b, hb, rfl⟩

/-- The standard registry knows built-in functions only. -/
theorem onlyBuiltins_standard : OnlyBuiltins .standard := by
  intro name f h
  obtain ⟨-, b, -, rfl⟩ := exists_of_getElem?_builtins h
  exact ⟨b, rfl⟩

/-- What holds of all built-in functions, for whatever numbers of arguments, holds of all functions
of the registry. -/
theorem OnlyBuiltins.of_forall_builtin {r : Registry} (h : r.OnlyBuiltins) {P : Function → Prop}
    (hP : ∀ (arity : Arity) (b : Builtin), P ⟨arity, .builtin b⟩) (name : String) (f : Function)
    (hf : r.function? name = some f) : P f := by
  obtain ⟨arity, body⟩ := f
  obtain ⟨b, rfl⟩ := h name _ hf
  exact hP arity b

theorem OnlyBuiltins.ignoresLimit {r : Registry} (h : r.OnlyBuiltins) (name : String)
    (f : Function) (hf : r.function? name = some f) : f.IgnoresLimit :=
  h.of_forall_builtin Function.ignoresLimit_builtin name f hf

end Registry

end TitleScript
