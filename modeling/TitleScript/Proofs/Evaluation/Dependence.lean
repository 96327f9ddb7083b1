import TitleScript.Proofs.FanOut.Plan

/-!
# What an outcome depends on

A script asks the record for the fields it names: a field by its name as written, and a list field
by its name in lower case, which is how the fan-out is planned. Three built-in functions take the
name of a field as text, so a script that calls one of them may ask for any field. All other
built-in functions have only the outcomes of their arguments to go by.

So two records that agree on the names in a script cannot be told apart by it, unless it calls one
of the three. This holds of the whole list of outcomes. The fan-out is planned alike for both
records, so there are the same branches, and a branch binds every list field alike.

## Main definitions

* `Function.IgnoresRecord` — the record has no influence on what a function computes
* `Node.asksByText` — a node calls a function that takes the name of a field as text
* `Node.askedName?` — the name under which a node asks the record

## Main results

* `FanOut.plan_congr` — records that agree on the list fields give the same plan
* `Node.agrees_of_record` — a node does not tell records apart that agree on its name
* `evaluate_congr_record` — what a script evaluates to depends on the fields it names
-/

namespace TitleScript

/-! ### Functions that do not look at the record -/

/-- The function takes the name of a field as text and asks the record for that field. -/
def Builtin.asksByText : Builtin → Bool
  | fieldText | fieldJoin | fieldCount => true
  | _ => false

/-- The function is a built-in one that takes the name of a field as text. -/
def Function.asksByText (f : Function) : Bool :=
  match f.body with
  | .builtin b => b.asksByText
  | .custom _ _ => false

/-- The record has no influence on what the function computes. -/
def Function.IgnoresRecord (f : Function) : Prop :=
  ∀ (ctx : Context) (record : Record), f.run { ctx with record := record } = f.run ctx

theorem Function.ignoresRecord_builtin {arity : Arity} {b : Builtin}
    (h : Function.asksByText ⟨arity, .builtin b⟩ = false) :
    Function.IgnoresRecord ⟨arity, .builtin b⟩ := by
  intro ctx record
  cases b with
  | fieldText | fieldJoin | fieldCount => contradiction
  | _ => rfl

/-! ### Nodes and the names they ask for -/

namespace Node

/-- The node calls a function that takes the name of a field as text, by whatever name. -/
def asksByText (r : Registry) : Node → Bool
  | call _ name _ => (r.function? name).any Function.asksByText
  | literal .. | quoted .. | field .. | fieldList .. | group .. => false

/-- The name under which the node asks the record: that of a field as written, and that of a list
field in lower case. -/
def askedName? : Node → Option String
  | field _ name => some name
  | fieldList _ name => some (lowerName name)
  | literal .. | quoted .. | call .. | group .. => none

variable {r : Registry} {record record' : Record}

theorem evalField_congr {ctx ctx' : Context} {name : String}
    (hrecord : ctx.record name = ctx'.record name) (hsettings : ctx.settings = ctx'.settings) :
    evalField r ctx name = evalField r ctx' name := by
  rw [evalField_eq, evalField_eq, Context.fieldText, Context.fieldText, hrecord, hsettings]

/-- A list field has its value from the branch, and a call has what its arguments yield. -/
theorem agrees_of_record (hbuiltins : r.OnlyBuiltins) {node : Node}
    (hcall : node.asksByText r = false)
    (hname : ∀ name ∈ node.askedName?, record name = record' name) (bindings : Bindings)
    (settings : Settings) :
    node.Agrees r ⟨record, bindings, settings⟩ ⟨record', bindings, settings⟩ := by
  cases node with
  | literal p text | quoted p text | group p content => trivial
  | field p name => exact evalField_congr (hname name rfl) rfl
  | fieldList p name => rfl
  | call p name args =>
    refine evalCall_congr fun f hf => ?_
    have hasks : f.asksByText = false := by
      rw [asksByText, hf, Option.any_some] at hcall
      exact hcall
    obtain ⟨arity, body⟩ := f
    obtain ⟨b, rfl⟩ := hbuiltins name _ hf
    exact Function.ignoresRecord_builtin hasks ⟨record', bindings, settings⟩ record

end Node

/-! ### Plans -/

/-- Records that agree on the list fields of a script give the same plan. -/
theorem FanOut.plan_congr {nodes : List Node} {record record' : Record} (registry : Registry)
    (h : ∀ node ∈ Node.preorderOf nodes, ∀ name ∈ node.listName?,
      record (lowerName name) = record' (lowerName name)) :
    plan nodes registry record = plan nodes registry record' := by
  have hfields : ∀ name ∈ (fieldNames nodes).filter registry.resolvesField,
      (name, (record name).toList) = (name, (record' name).toList) := by
    intro lowered hlowered
    have hmem := (List.mem_filter.1 hlowered).1
    rw [fieldNames_eq, List.mem_eraseDups] at hmem
    obtain ⟨name, hname, rfl⟩ := List.mem_map.1 hmem
    obtain ⟨node, hnode, hname⟩ := List.mem_filterMap.1 hname
    rw [h node hnode name hname]
  rw [plan, plan, List.map_congr_left hfields]

/-- **What a script evaluates to depends only on the fields it names.** Two records that agree on
the names in a script have the same outcomes, in the same order and with the same flags, where all
functions are built-in ones and no call is one of a function that takes the name of a field as
text. -/
theorem evaluate_congr_record {r : Registry} (hbuiltins : r.OnlyBuiltins) {nodes : List Node}
    (hcalls : ∀ node ∈ Node.preorderOf nodes, node.asksByText r = false) {record record' : Record}
    (hnames : ∀ node ∈ Node.preorderOf nodes, ∀ name ∈ node.askedName?,
      record name = record' name) (settings : Settings) :
    evaluate nodes r record settings = evaluate nodes r record' settings := by
  have hplan : FanOut.plan nodes r record = FanOut.plan nodes r record' := by
    refine FanOut.plan_congr r fun node hnode name hname => ?_
    cases node with
    | fieldList p written =>
      obtain rfl : written = name := Option.some_inj.1 hname
      exact hnames _ hnode _ rfl
    | literal p text | quoted p text | field p written | call p written args | group p content =>
      contradiction
  rw [evaluate, evaluate, hplan]
  refine List.map_congr_left fun bindings _ => ?_
  refine Node.evalSequence_congr fun node hnode => ?_
  exact Node.agrees_of_record hbuiltins (hcalls node hnode) (hnames node hnode) bindings settings

/-- Records that agree on the three names that are asked for, and on no other spelling of them, with
a function that has a name of its own. -/
theorem evaluate_congr_record_spellings :
    let r : Registry := ⟨∅, .ofList [("when", Function.ofBuiltin .choose)], true⟩
    let nodes : List Node := [.field 0 "Title", .call 7 "When" [[.fieldList 13 "Genre"],
      [.group 23 [.fieldList 24 "genre", .field 33 "date"]], [.literal 41 "x"]]]
    let record : Record := fun name =>
      if name = "Title" then .single "t" else if name = "genre" then .multi ["a", "b"] else .missing
    let record' : Record := fun name =>
      if name ∈ ["Title", "genre", "date"] then record name else .single "other"
    record "title" ≠ record' "title" ∧ record "Genre" ≠ record' "Genre"
      ∧ evaluate nodes r record' {} = [⟨"t", true, true⟩, ⟨"t", true, true⟩] := by
  intro r nodes record record'
  have hbuiltins : r.OnlyBuiltins := by
    intro name f hf
    obtain ⟨-, rfl⟩ : normalizeName name = "when" ∧ f = .ofBuiltin .choose := by
      simpa using Registry.mem_of_getElem?_ofList hf
    exact ⟨.choose, rfl⟩
  have hcalls : ∀ node ∈ Node.preorderOf nodes, node.asksByText r = false := by
    decide +kernel
  have hnames : ∀ node ∈ Node.preorderOf nodes, ∀ name ∈ node.askedName?,
      record name = record' name := by decide +kernel
  refine ⟨by decide +kernel, by decide +kernel, ?_⟩
  rw [← evaluate_congr_record hbuiltins hcalls hnames {}]
  decide +kernel

end TitleScript
