import TitleScript.Proofs.Name.Characters
import TitleScript.Proofs.Name.Entries
import TitleScript.Proofs.Registry.Change

/-!
# What a registry remembers

A registry is two tables that know nothing of each other, and of all changes made to it only the
last one for a name counts. What decides about the name is not how a table was filled but which
entries the accepted changes made, in whatever spellings: a field is what it was last registered as,
and a name that is no field is the function it was last registered as. Changes that were refused
have no part in this. A list of fields is taken as a whole, so one name that is refused keeps all of
them out.

What a change does is said once, by `Registry.change_eq_ok`. All else follows from the entries.

## Main definitions

* `Registry.Change.fields`, `Registry.Change.functions`, `Registry.Change.closes` — what a change
  says
* `Registry.accepted` — the changes of a history that are not refused
* `Registry.SameFields`, `Registry.SameFunctions` — registries that agree on one of the two tables

## Main results

* `Registry.change_eq_ok` — what a change does
* `Registry.run_eq` — what a history does
* `Registry.fieldKind?_run`, `Registry.function?_run` — the last entry of a name wins
* `classify_run` — what a name refers to after any history
-/

namespace TitleScript

/-- What the name of a listed field refers to. -/
def FieldKind.nameKind : FieldKind → NameKind
  | single => .field
  | multi => .fieldList

namespace Registry

/-! ### What a change says -/

/-- The entries that a change makes in the table of fields. -/
def Change.fields : Change → List (String × FieldKind)
  | addField name kind => [(name, kind)]
  | addFields names kind => names.map (·, kind)
  | addFunction .. | close => []

/-- The entries that a change makes in the table of functions. -/
def Change.functions : Change → List (String × Function)
  | addFunction name f => [(name, f)]
  | addField .. | addFields .. | close => []

/-- Whether a change closes the registry. -/
def Change.closes : Change → Bool
  | close => true
  | addField .. | addFields .. | addFunction .. => false

/-- The changes of a history that are not refused by the registry as it is when they are made. -/
def accepted (r : Registry) : List Change → List Change
  | [] => []
  | c :: changes =>
    match r.change c with
    | .ok r' => c :: r'.accepted changes
    | .error _ => r.accepted changes

/-! ### What a change does -/

variable {r r' : Registry} {c : Change} {name : String}

theorem addFields_eq_ok {names : List String} {kind : FieldKind}
    (h : r.addFields names kind = .ok r') :
    r' = { r with fields := enter r.fields (names.map (·, kind)) } := by
  induction names generalizing r with
  | nil =>
    obtain rfl : r = r' := Except.ok.inj h
    rfl
  | cons name names ih =>
    rw [addFields_cons] at h
    cases hfirst : r.addField name kind with
    | error e =>
      rw [hfirst] at h
      contradiction
    | ok between =>
      rw [hfirst] at h
      obtain ⟨-, rfl⟩ := addField_eq_ok_iff.1 hfirst
      exact ih h

/-- **What a change does**, if it is not refused: it makes its entries in both tables, and closing
is for good. -/
theorem change_eq_ok (h : r.change c = .ok r') :
    r' = ⟨enter r.fields c.fields, enter r.functions c.functions, r.isOpen && !c.closes⟩ := by
  cases c with
  | addField name kind =>
    obtain ⟨-, rfl⟩ := addField_eq_ok_iff.1 h
    simp only [Change.fields, Change.functions, Change.closes, enter_cons, enter_nil,
      Bool.not_false, Bool.and_true]
  | addFields names kind =>
    rw [addFields_eq_ok h]
    simp only [Change.fields, Change.functions, Change.closes, enter_nil, Bool.not_false,
      Bool.and_true]
  | addFunction name f =>
    obtain ⟨hname, rfl⟩ := addFunction_eq_ok_iff.1 h
    -- the name goes in in lower case only, but it has no blanks to lose
    simp only [Change.fields, Change.functions, Change.closes, enter_cons, enter_nil,
      normalizeName_of_isCallable hname, Bool.not_false, Bool.and_true]
  | close =>
    obtain rfl : r.close = r' := Except.ok.inj h
    simp only [close, Change.fields, Change.functions, Change.closes, enter_nil, Bool.not_true,
      Bool.and_false]

theorem changed_of_ok (h : r.change c = .ok r') : r.changed c = r' := by
  rw [changed, h]

theorem changed_of_error {e : NameError} (h : r.change c = .error e) : r.changed c = r := by
  rw [changed, h]

/-! ### What a history does -/

theorem run_cons (r : Registry) (c : Change) (changes : List Change) :
    r.run (c :: changes) = (r.changed c).run changes := rfl

theorem run_append (r : Registry) (before after : List Change) :
    r.run (before ++ after) = (r.run before).run after :=
  List.foldl_append

theorem accepted_cons_of_ok (h : r.change c = .ok r') (changes : List Change) :
    r.accepted (c :: changes) = c :: r'.accepted changes := by
  rw [accepted, h]

theorem accepted_cons_of_error {e : NameError} (h : r.change c = .error e)
    (changes : List Change) : r.accepted (c :: changes) = r.accepted changes := by
  rw [accepted, h]

/-- **What a history does**: the entries of the accepted changes are made in their order. -/
theorem run_eq (r : Registry) (changes : List Change) :
    r.run changes
      = ⟨enter r.fields ((r.accepted changes).flatMap Change.fields),
        enter r.functions ((r.accepted changes).flatMap Change.functions),
        r.isOpen && !(r.accepted changes).any Change.closes⟩ := by
  induction changes generalizing r with
  | nil => simp [run, accepted]
  | cons c changes ih =>
    cases h : r.change c with
    | error e => rw [run_cons, changed_of_error h, accepted_cons_of_error h, ih]
    | ok r' =>
      rw [run_cons, changed_of_ok h, accepted_cons_of_ok h, ih, change_eq_ok h]
      simp only [List.flatMap_cons, enter_append, List.any_cons, Bool.not_or, Bool.and_assoc]

/-- **The last registration of a field wins.** -/
theorem fieldKind?_run (r : Registry) (changes : List Change) (name : String) :
    (r.run changes).fieldKind? name
      = (valuesUnder (normalizeName name)
          ((r.accepted changes).flatMap Change.fields)).getLast?.or (r.fieldKind? name) := by
  rw [fieldKind?, run_eq, getElem?_enter, fieldKind?]

/-- **The last registration of a function wins.** -/
theorem function?_run (r : Registry) (changes : List Change) (name : String) :
    (r.run changes).function? name
      = (valuesUnder (normalizeName name)
          ((r.accepted changes).flatMap Change.functions)).getLast?.or (r.function? name) := by
  rw [function?, run_eq, getElem?_enter, function?]

/-- A change that is refused can be left out of the history. -/
theorem run_of_error {before : List Change} {e : NameError}
    (h : (r.run before).change c = .error e) (after : List Change) :
    r.run (before ++ c :: after) = r.run (before ++ after) := by
  rw [run_append, run_cons, changed_of_error h, run_append]

/-! ### The tables do not interfere -/

/-- The registries list the same fields, and a script can use the same fields with both. -/
def SameFields (r r' : Registry) : Prop :=
  (∀ name, r.fieldKind? name = r'.fieldKind? name ∧ r.resolvesField name = r'.resolvesField name)
    ∧ r.fieldNames = r'.fieldNames

/-- The registries know the same functions. -/
def SameFunctions (r r' : Registry) : Prop :=
  (∀ name, r.function? name = r'.function? name) ∧ r.functionNames = r'.functionNames

theorem changed_cases (r : Registry) (c : Change) : r.changed c = r
    ∨ r.changed c
      = ⟨enter r.fields c.fields, enter r.functions c.functions, r.isOpen && !c.closes⟩ := by
  cases h : r.change c with
  | error e => exact .inl (changed_of_error h)
  | ok r' => exact .inr ((changed_of_ok h).trans (change_eq_ok h))

/-- A change without functions leaves the functions alone. -/
theorem sameFunctions_changed (r : Registry) (h : c.functions = []) :
    SameFunctions (r.changed c) r := by
  obtain hsame | happlied := changed_cases r c
  · rw [hsame]
    exact ⟨fun _ => rfl, rfl⟩
  · rw [happlied, h]
    exact ⟨fun _ => rfl, rfl⟩

/-- A function leaves the fields alone. -/
theorem sameFields_changed (r : Registry) (name : String) (f : Function) :
    SameFields (r.changed (.addFunction name f)) r := by
  obtain hsame | happlied := changed_cases r (.addFunction name f)
  · rw [hsame]
    exact ⟨fun _ => ⟨rfl, rfl⟩, rfl⟩
  · have hopen : (r.isOpen && !Change.closes (.addFunction name f)) = r.isOpen := Bool.and_true _
    rw [happlied, hopen]
    exact ⟨fun _ => ⟨rfl, rfl⟩, rfl⟩

/-! ### What names refer to -/

theorem fieldKind?_eq_none {start : Registry} (h : start = .empty ∨ start = .standard)
    (name : String) : start.fieldKind? name = none := by
  rcases h with rfl | rfl
  · exact Std.ExtTreeMap.getElem?_empty
  · exact Std.ExtTreeMap.getElem?_empty

/-- A listed field goes before a function, and a function before a field that is known only because
the registry is open. -/
theorem classify_eq (r : Registry) (name : String) :
    r.classify name = match r.fieldKind? name, r.function? name with
      | some kind, _ => kind.nameKind
      | none, some f => .function f.arity
      | none, none => if r.isOpen then .field else .unknown := by
  rw [classify]
  cases r.fieldKind? name with
  | none => cases r.function? name <;> rfl
  | some kind => cases kind <;> rfl

end Registry

/-- **What a name refers to after any history.** The last accepted registration as a field decides,
in any spelling of the name. Without one it is the last accepted registration as a function, or the
function that the registry began with, and without that it depends on whether the registry is open.
A change that is refused makes no difference to anything that comes behind it. Functions do not
interfere with fields, nor fields with functions. -/
theorem classify_run {start : Registry} (hstart : start = .empty ∨ start = .standard)
    (changes : List Registry.Change) :
    let r := start.run changes
    let accepted := start.accepted changes
    (∀ name : String,
      let kinds := valuesUnder (normalizeName name) (accepted.flatMap (·.fields))
      let functions := valuesUnder (normalizeName name) (accepted.flatMap (·.functions))
      r.classify name = match kinds.getLast?, functions.getLast?.or (start.function? name) with
        | some kind, _ => kind.nameKind
        | none, some f => .function f.arity
        | none, none => if r.isOpen then .field else .unknown)
      ∧ r.isOpen = (start.isOpen && !accepted.any (·.closes))
      ∧ (∀ c e later, r.change c = .error e →
        start.run (changes ++ c :: later) = start.run (changes ++ later))
      ∧ (∀ name f, Registry.SameFields (r.changed (.addFunction name f)) r)
      ∧ (∀ name kind, Registry.SameFunctions (r.changed (.addField name kind)) r)
      ∧ ∀ names kind, Registry.SameFunctions (r.changed (.addFields names kind)) r := by
  intro r accepted
  refine ⟨fun name => ?_, ?_, fun c e later h => Registry.run_of_error h later,
    Registry.sameFields_changed r, fun name kind => Registry.sameFunctions_changed r rfl,
    fun names kind => Registry.sameFunctions_changed r rfl⟩
  · have hfields : r.fieldKind? name
        = (valuesUnder (normalizeName name) (accepted.flatMap (·.fields))).getLast? := by
      rw [Registry.fieldKind?_run, Registry.fieldKind?_eq_none hstart, Option.or_none]
    have hfunctions : r.function? name
        = (valuesUnder (normalizeName name) (accepted.flatMap (·.functions))).getLast?.or
          (start.function? name) :=
      Registry.function?_run start changes name
    rw [Registry.classify_eq, hfields, hfunctions]
  · exact congrArg Registry.isOpen (Registry.run_eq start changes)

/-- A name of a field and of a function in several spellings, a list that is refused for one of its
names, and a built-in function that is replaced. -/
theorem classify_run_spellings :
    let changes : List Registry.Change :=
      [.addField " Größe" .single, .addFunction "GRÖSSE" ⟨.exactly 7, .builtin .and⟩, .close,
        .addFields ["Mood", "GRÖßE\t"] .multi, .addFields ["größe", "a%b"] .single,
        .addFunction "Upper" ⟨.exactly 3, .builtin .lower⟩]
    (Registry.standard.run changes).classify "größe" = .fieldList
      ∧ (Registry.standard.run changes).classify " UPPER" = .function (.exactly 3) := by
  intro changes
  have hclassify := (classify_run (.inr rfl) changes).1
  refine ⟨(hclassify "größe").trans ?_, (hclassify " UPPER").trans ?_⟩
  · decide +kernel
  · decide +kernel

end TitleScript
