import TitleScript.Proofs.Evaluation.Walk
import TitleScript.Proofs.FanOut.Plan
import TitleScript.Proofs.Function
import TitleScript.Proofs.Registry

/-!
# Warnings about names

Three kinds of warnings say that a construct cannot be resolved: a name is not known, as a field or
as a function, or a function does not accept the number of its arguments. Evaluation finds out about
names by itself and flags an outcome as failed when there is one that it cannot resolve. Both look
at the same nodes, so the warnings foretell the flag.

A script without such warnings never fails, since no built-in function does. A script with one
always fails where each function looks at all of its arguments, for then the flag reaches the
outcome of the script from wherever it is. A function that chooses may leave out the argument the
warning is about.

## Main definitions

* `Warning.isUnresolved` — a warning about something that cannot be resolved

## Main results

* `Script.exists_isUnresolved_iff` — the warnings are about the nodes that cannot be resolved
* `Node.success_eval`, `Node.resolves_of_success` — a node fails only if there is one inside, and,
  where no function leaves out arguments, whenever there is
* `warnings_foretell_success` — what the warnings about names say about every branch
-/

namespace TitleScript

/-- The warning is about something that cannot be resolved: the name of a field or function, or a
number of arguments. -/
def Warning.isUnresolved : Warning → Bool
  | unknownField .. | unknownFunction .. | argumentCount .. => true
  | listOfSingleValue .. | alwaysShown .. => false

namespace Node

variable {r : Registry} {ctx : Context}

/-! ### What is warned about -/

theorem any_isUnresolved_fieldWarnings (p : Nat) (name : String) :
    (r.fieldWarnings p name).any Warning.isUnresolved = !r.resolvesField name := by
  rw [Registry.fieldWarnings]
  cases r.resolvesField name <;> rfl

/-- A node is warned about if it cannot be resolved. A list field that has one value is known. -/
theorem any_isUnresolved_ownWarnings (node : Node) :
    (node.ownWarnings r).any Warning.isUnresolved = !node.resolves r := by
  cases node with
  | literal p text | quoted p text => rfl
  | field p name => exact any_isUnresolved_fieldWarnings p name
  | fieldList p name =>
    rw [ownWarnings, Registry.fieldListWarnings]
    split
    next hsingle =>
      have hknown : r.resolvesField name := by simp [Registry.resolvesField, hsingle]
      rw [resolves, hknown]
      rfl
    next => exact any_isUnresolved_fieldWarnings p name
  | call p name args =>
    rw [ownWarnings, Registry.callWarnings, resolves]
    cases r.function? name with
    | none => rfl
    | some f =>
      by_cases haccepts : f.arity.accepts args.length <;>
        simp [haccepts, Warning.isUnresolved]
  | group p content =>
    rw [ownWarnings, groupWarnings]
    split <;> rfl

/-! ### What evaluation finds out -/

/-- A node fails only if it or a node inside it does not resolve. -/
theorem success_eval (hbuiltins : r.OnlyBuiltins) (node : Node)
    (h : ∀ inner ∈ node.preorder, inner.resolves r) : (node.eval r ctx).success := by
  induction node using Node.induction with
  | literal p text | quoted p text => rfl
  | field p name =>
    have hknown : r.resolvesField name := h _ List.mem_cons_self
    rw [eval, evalField_eq, if_pos hknown]
    rfl
  | fieldList p name =>
    have hknown : r.resolvesField name := h _ List.mem_cons_self
    rw [eval, evalFieldList_eq, if_pos hknown]
    rfl
  | call p name args ih =>
    rw [forall_mem_preorder_call] at h
    obtain ⟨f, hf, heval⟩ := eval_call_of_resolves ctx h.1
    obtain ⟨b, hbody⟩ := hbuiltins name f hf
    have hargs : ∀ o ∈ args.map (evalSequence r ctx), o.success := by
      rw [List.forall_mem_map]
      intro arg harg
      exact success_evalSequence.2 fun node hnode =>
        ih arg harg node hnode (h.2 arg harg node hnode)
    have hrun : (f.run ctx (args.map (evalSequence r ctx))).success := by
      rw [f.run_of_body ctx _ hbody]
      exact b.success_run ctx _ hargs
    rw [heval]
    exact f.success_apply ctx _ hrun hargs
  | group p content ih =>
    rw [forall_mem_preorder_group] at h
    rw [eval_group, success_evalGroup]
    exact success_evalSequence.2 fun node hnode => ih node hnode (h.2 node hnode)

/-- Where no function leaves out arguments, a node that does not fail has nothing inside that does
not resolve. -/
theorem resolves_of_success (node : Node) (heager : ∀ inner ∈ node.preorder, inner.isEager r)
    (h : (node.eval r ctx).success) : ∀ inner ∈ node.preorder, inner.resolves r := by
  induction node using Node.induction with
  | literal p text | quoted p text | field p name | fieldList p name =>
    exact List.forall_mem_singleton.2 (resolves_of_success_eval h)
  | call p name args ih =>
    have hself := resolves_of_success_eval h
    obtain ⟨f, hf, heval⟩ := eval_call_of_resolves ctx hself
    rw [forall_mem_preorder_call] at heager ⊢
    have hstrategy := strategy_of_isEager heager.1 hself hf
    rw [heval, f.success_apply_of_eager ctx _ hstrategy, List.forall_mem_map] at h
    refine ⟨hself, fun arg harg node hnode => ?_⟩
    have hnode' := success_evalSequence.1 (h.2 arg harg) node hnode
    exact ih arg harg node hnode (heager.2 arg harg node hnode) hnode'
  | group p content ih =>
    rw [forall_mem_preorder_group] at heager ⊢
    rw [eval_group, success_evalGroup] at h
    refine ⟨rfl, fun node hnode => ?_⟩
    exact ih node hnode (heager.2 node hnode) (success_evalSequence.1 h node hnode)

end Node

/-! ### Scripts -/

/-- There is a warning about something that does not resolve where there is such a node. -/
theorem Script.exists_isUnresolved_iff {s : Script} {r : Registry} :
    (∃ w ∈ s.warnings r, w.isUnresolved)
      ↔ ∃ node ∈ Node.preorderOf s.nodes, node.resolves r = false := by
  constructor
  · rintro ⟨w, hw, hunresolved⟩
    obtain ⟨node, hnode, hown⟩ := mem_warnings.1 hw
    have hany : (node.ownWarnings r).any Warning.isUnresolved :=
      List.any_eq_true.2 ⟨w, hown, hunresolved⟩
    rw [Node.any_isUnresolved_ownWarnings, Bool.not_eq_true'] at hany
    exact ⟨node, hnode, hany⟩
  · rintro ⟨node, hnode, hresolves⟩
    have hany : (node.ownWarnings r).any Warning.isUnresolved := by
      rw [Node.any_isUnresolved_ownWarnings, hresolves]
      rfl
    obtain ⟨w, hown, hunresolved⟩ := List.any_eq_true.1 hany
    exact ⟨w, mem_warnings.2 ⟨node, hnode, hown⟩, hunresolved⟩

/-- **The warnings about names foretell what evaluation finds out.** There is always a branch. Where
all functions are built-in ones, a script without such warnings does not fail, for no record and in
no branch. Where no function leaves out arguments, a script with such a warning fails in every
branch. -/
theorem warnings_foretell_success (s : Script) (r : Registry) :
    (∀ (record : Record) (settings : Settings), evaluate s.nodes r record settings ≠ [])
      ∧ (r.OnlyBuiltins → (∀ w ∈ s.warnings r, ¬ w.isUnresolved) →
        ∀ (record : Record) (settings : Settings),
          ∀ o ∈ evaluate s.nodes r record settings, o.success = true)
      ∧ ((∀ node ∈ Node.preorderOf s.nodes, node.isEager r) →
        (∃ w ∈ s.warnings r, w.isUnresolved) →
          ∀ (record : Record) (settings : Settings),
            ∀ o ∈ evaluate s.nodes r record settings, o.success = false) := by
  refine ⟨fun record settings => ?_, ?_, ?_⟩
  · exact List.ne_nil_of_length_pos (length_evaluate_pos settings)
  · intro hbuiltins hnone record settings o ho
    obtain ⟨bindings, -, rfl⟩ := List.mem_map.1 ho
    have hresolves : ∀ node ∈ Node.preorderOf s.nodes, node.resolves r := by
      intro node hnode
      cases hunresolved : node.resolves r with
      | true => rfl
      | false =>
        obtain ⟨w, hw, hwarned⟩ := Script.exists_isUnresolved_iff.2 ⟨node, hnode, hunresolved⟩
        exact absurd hwarned (hnone w hw)
    rw [Node.forall_mem_preorderOf] at hresolves
    exact Node.success_evalSequence.2 fun node hnode =>
      Node.success_eval hbuiltins node (hresolves node hnode)
  · intro heager hwarned record settings o ho
    obtain ⟨bindings, -, rfl⟩ := List.mem_map.1 ho
    obtain ⟨inner, hinner, hunresolved⟩ := Script.exists_isUnresolved_iff.1 hwarned
    refine Bool.eq_false_iff.2 fun hsuccess => ?_
    have hresolves : ∀ node ∈ Node.preorderOf s.nodes, node.resolves r := by
      rw [Node.forall_mem_preorderOf] at heager ⊢
      intro node hnode
      have hnode' := Node.success_evalSequence.1 hsuccess node hnode
      exact Node.resolves_of_success node (heager node hnode) hnode'
    rw [hresolves inner hinner] at hunresolved
    contradiction

/-- A closed registry with one field. In one script its only warning is about a list of one value;
in the other one an unknown name stands inside a call that is not accepted anyway. -/
theorem warnings_foretell_success_closed :
    let r : Registry := ⟨.ofList [("title", FieldKind.single)], Registry.builtins, false⟩
    let known : Script := ⟨"$if(%<title>%,[%title%])", [.call 0 "if" [[.fieldList 4 "title"],
      [.group 14 [.field 15 "title"]]]], []⟩
    let unknown : Script := ⟨"$len(%titel%,x)", [.call 0 "len" [[.field 5 "titel"],
      [.literal 13 "x"]]], []⟩
    (∀ w ∈ known.warnings r, ¬ w.isUnresolved)
      ∧ (∀ o ∈ evaluate known.nodes r (fun _ => .missing) {}, o.success = true)
      ∧ (∃ w ∈ unknown.warnings r, w.isUnresolved)
      ∧ ∀ o ∈ evaluate unknown.nodes r (fun _ => .missing) {}, o.success = false := by
  intro r known unknown
  have hbuiltins : r.OnlyBuiltins := fun name f hf => Registry.onlyBuiltins_standard name f hf
  obtain ⟨hresolves, hunresolved, heager⟩ :
      (∀ node ∈ Node.preorderOf known.nodes, node.resolves r ≠ false)
        ∧ (∃ node ∈ Node.preorderOf unknown.nodes, node.resolves r = false)
        ∧ ∀ node ∈ Node.preorderOf unknown.nodes, node.isEager r := by decide +kernel
  have hknown : ∀ w ∈ known.warnings r, ¬ w.isUnresolved := by
    intro w hw hwarned
    obtain ⟨node, hnode, hnot⟩ := Script.exists_isUnresolved_iff.1 ⟨w, hw, hwarned⟩
    exact hresolves node hnode hnot
  have hunknown : ∃ w ∈ unknown.warnings r, w.isUnresolved :=
    Script.exists_isUnresolved_iff.2 hunresolved
  exact ⟨hknown, (warnings_foretell_success known r).2.1 hbuiltins hknown _ _, hunknown,
    (warnings_foretell_success unknown r).2.2 heager hunknown _ _⟩

end TitleScript
