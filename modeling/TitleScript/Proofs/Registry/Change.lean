import TitleScript.Registry

/-!
# Registries that change

A registry is made from one of the two to start from by registering names and by closing it. A
change can be refused, and then the registry is what it was before.

Names come into a registry in two ways only, so what holds at the beginning and survives these two
and closing holds of every registry that can be made.

## Main definitions

* `Registry.Change`, `Registry.change` — the changes and their effect
* `Registry.run` — the registry after some changes
* `Registry.Invariant` — a property that no change takes away

## Main results

* `Registry.Invariant.change` — one change keeps such a property
* `Registry.Invariant.run` — any number of changes keeps it
-/

namespace TitleScript

namespace Registry

/-- What can be done to a registry. -/
inductive Change
  | addField (name : String) (kind : FieldKind)
  | addFields (names : List String) (kind : FieldKind)
  | addFunction (name : String) (f : Function)
  | close

/-- The registry after a change, or the reason to refuse it. -/
def change (r : Registry) : Change → Except NameError Registry
  | .addField name kind => r.addField name kind
  | .addFields names kind => r.addFields names kind
  | .addFunction name f => r.addFunction name f
  | .close => .ok r.close

/-- The registry after a change, and as it was if the change is refused. -/
def changed (r : Registry) (c : Change) : Registry :=
  match r.change c with
  | .ok r' => r'
  | .error _ => r

/-- The registry after some changes, one after another. -/
def run (r : Registry) (changes : List Change) : Registry :=
  changes.foldl changed r

/-! ### What the changes do -/

variable {r r' : Registry} {name : String}

theorem addFunction_eq_ok_iff {f : Function} : r.addFunction name f = .ok r' ↔
    isCallable name ∧ { r with functions := r.functions.insert (lowerName name) f } = r' := by
  rw [addFunction]
  split
  · next h => simp [h]
  · next h => simp [h]

theorem addField_eq_ok_iff {kind : FieldKind} : r.addField name kind = .ok r' ↔
    isReferenceable (Text.trim name)
      ∧ { r with fields := r.fields.insert (normalizeName name) kind } = r' := by
  rw [addField]
  split
  · next h => simp [h]
  · next h => simp [h]

theorem addFields_cons (r : Registry) (name : String) (names : List String) (kind : FieldKind) :
    r.addFields (name :: names) kind
      = r.addField name kind >>= fun r' => r'.addFields names kind :=
  List.foldlM_cons ..

/-! ### What they keep -/

/-- A property that is kept when a name comes in and when the registry is closed. -/
structure Invariant (P : Registry → Prop) : Prop where
  /-- A field keeps it. -/
  field : ∀ (r : Registry) (name : String) (kind : FieldKind), P r →
    isReferenceable (Text.trim name) →
      P { r with fields := r.fields.insert (normalizeName name) kind }
  /-- A function keeps it. -/
  function : ∀ (r : Registry) (name : String) (f : Function), P r → isCallable name →
    P { r with functions := r.functions.insert (lowerName name) f }
  /-- Closing keeps it. -/
  close : ∀ r : Registry, P r → P r.close

namespace Invariant

variable {P : Registry → Prop} {c : Change}

theorem addField (h : Invariant P) (hr : P r) {kind : FieldKind}
    (hok : r.addField name kind = .ok r') : P r' := by
  obtain ⟨hname, rfl⟩ := addField_eq_ok_iff.1 hok
  exact h.field r name kind hr hname

theorem addFields (h : Invariant P) {names : List String} {kind : FieldKind} (hr : P r)
    (hok : r.addFields names kind = .ok r') : P r' := by
  induction names generalizing r with
  | nil =>
    obtain rfl : r = r' := Except.ok.inj hok
    exact hr
  | cons name names ih =>
    rw [addFields_cons] at hok
    cases hfirst : r.addField name kind with
    | error e =>
      rw [hfirst] at hok
      contradiction
    | ok between =>
      rw [hfirst] at hok
      exact ih (h.addField hr hfirst) hok

/-- **One change keeps the property.** -/
theorem change (h : Invariant P) (hr : P r) (hok : r.change c = .ok r') : P r' := by
  cases c with
  | addField name kind => exact h.addField hr hok
  | addFields names kind => exact h.addFields hr hok
  | addFunction name f =>
    obtain ⟨hname, rfl⟩ := addFunction_eq_ok_iff.1 hok
    exact h.function r name f hr hname
  | close =>
    obtain rfl : r.close = r' := Except.ok.inj hok
    exact h.close r hr

/-- A change that is refused changes nothing. -/
theorem changed (h : Invariant P) (hr : P r) : P (r.changed c) := by
  rw [Registry.changed]
  split
  · next hok => exact h.change hr hok
  · exact hr

/-- **Any number of changes keeps the property.** -/
theorem run (h : Invariant P) (hr : P r) (changes : List Change) : P (r.run changes) := by
  induction changes generalizing r with
  | nil => exact hr
  | cons c changes ih => exact ih (h.changed hr)

end Invariant

end Registry

end TitleScript
