import TitleScript.Proofs.Evaluation.Walk
import TitleScript.Proofs.Registry

/-!
# Flags that do not contradict each other

An outcome has two flags and so four combinations of them, of which three have a meaning: a name was
not known, a field that is known had no value, or there is a value. A name that is not known has no
value either, so what failed counts as empty, and the fourth combination, an outcome that failed
with everything in it present, means nothing.

Nothing that arises by itself has it, and all ways to combine outcomes keep it out: one flag of a
combination is the conjunction and the other the disjunction of those of its parts, so the part that
failed brings its emptiness along. A function that chooses passes an outcome on as it is. A function
of the host could yield anything, so the registry must know built-in functions only.

Groups go further. One that is not shown has no text, and one that is shown has flags that say
nothing, so its text tells its flags.

## Main definitions

* `Outcome.Consistent` — what failed counts as empty

## Main results

* `Builtin.consistent_run`, `Function.consistent_apply` — functions and calls
* `Node.consistent_eval`, `Node.consistent_evalSequence` — nodes and sequences
* `flags_consistent` — the flags of everything that is evaluated
-/

namespace TitleScript

/-! ### Outcomes -/

namespace Outcome

/-- What failed counts as empty: an unknown name has no value. -/
def Consistent (o : Outcome) : Prop :=
  o.success = false → o.isEmpty = true

variable {o p : Outcome}

theorem consistent_of_success (h : o.success) : o.Consistent := by
  intro hfailed
  rw [h] at hfailed
  contradiction

theorem consistent_neutral : neutral.Consistent := consistent_of_success rfl

theorem consistent_literal (text : String) : (literal text).Consistent := consistent_of_success rfl

theorem consistent_ofField (value : String) : (ofField value).Consistent :=
  consistent_of_success rfl

theorem consistent_unresolved : unresolved.Consistent := fun _ => rfl

namespace Consistent

/-- The part that failed makes the combination fail and empty. -/
theorem append (ho : o.Consistent) (hp : p.Consistent) : (o.append p).Consistent := by
  intro hfailed
  rcases Bool.and_eq_false_iff.1 hfailed with hfailed | hfailed
  · simp [Outcome.append, ho hfailed]
  · simp [Outcome.append, hp hfailed]

theorem absorb (ho : o.Consistent) (hp : p.Consistent) : (o.absorb p).Consistent :=
  ho.append hp

theorem foldl_absorb {args : List Outcome} (ho : o.Consistent)
    (hargs : ∀ arg ∈ args, arg.Consistent) : (args.foldl Outcome.absorb o).Consistent := by
  induction args generalizing o with
  | nil => exact ho
  | cons arg args ih =>
    rw [List.forall_mem_cons] at hargs
    exact ih (ho.absorb hargs.1) hargs.2

theorem truncate (ho : o.Consistent) (room : Nat) : (o.truncate room).Consistent := ho

/-- What is chosen among outcomes, or says something of its own, is one of them or does not fail. -/
theorem of_chosen {args : List Outcome} (hargs : ∀ arg ∈ args, arg.Consistent)
    (h : o.Chosen args) : o.Consistent := by
  rcases h with hmem | ⟨text, rfl⟩
  · exact hargs o hmem
  · exact consistent_literal text

/-- A group lets through the flags of its content or has flags that say nothing. -/
theorem evalGroup (ho : o.Consistent) : (evalGroup o).Consistent := by
  cases hpresent : o.isPresent with
  | true =>
    rw [evalGroup_of_isPresent hpresent]
    exact consistent_literal o.text
  | false =>
    rw [evalGroup_of_not_isPresent hpresent]
    exact ho

end Consistent

end Outcome

/-- The text of a group that shows something tells its flags. -/
theorem isPresent_evalGroup_of_text {content : Outcome} (h : (evalGroup content).text ≠ "") :
    (evalGroup content).isPresent := by
  cases hpresent : content.isPresent with
  | true => rw [evalGroup_of_isPresent hpresent, Outcome.isPresent_literal]
  | false =>
    rw [evalGroup_of_not_isPresent hpresent] at h
    exact absurd rfl h

/-! ### Functions -/

/-- Functions of the three kinds pass on an argument, find a field or say something of their own. -/
theorem Builtin.consistent_run (b : Builtin) (ctx : Context) {args : List Outcome}
    (hargs : ∀ arg ∈ args, arg.Consistent) : (b.run ctx args).Consistent := by
  cases hstrategy : b.strategy with
  | lazy => exact .of_chosen hargs (run_of_lazy ctx args hstrategy)
  | eager =>
    cases hfound : Lookup.foundText? ctx args b with
    | some text =>
      rw [run_of_foundText? ctx args hfound]
      exact Outcome.consistent_ofField text
    | none =>
      obtain ⟨text, hown⟩ := run_of_eager ctx args hstrategy hfound
      rw [hown]
      exact Outcome.consistent_literal text

/-- A call of a function adds the flags of the arguments, or adds nothing. -/
theorem Function.consistent_apply (f : Function) (ctx : Context) {args : List Outcome}
    (hrun : (f.run ctx args).Consistent) (hargs : ∀ arg ∈ args, arg.Consistent) :
    (f.apply ctx args).Consistent := by
  cases hstrategy : f.strategy with
  | lazy =>
    rw [apply_of_lazy ctx args hstrategy]
    exact hrun.truncate maxResultBytes
  | eager =>
    rw [apply_of_eager ctx args hstrategy]
    exact (hrun.foldl_absorb hargs).truncate maxResultBytes

/-! ### Trees -/

namespace Node

variable {r : Registry} {ctx : Context}

theorem consistent_evalSequence_of {nodes : List Node}
    (h : ∀ node ∈ nodes, (node.eval r ctx).Consistent) :
    (evalSequence r ctx nodes).Consistent := by
  induction nodes with
  | nil => exact Outcome.consistent_neutral
  | cons node nodes ih =>
    rw [List.forall_mem_cons] at h
    rw [evalSequence_cons]
    exact h.1.append (ih h.2)

/-- The flags of a node do not contradict each other, whatever is inside it. -/
theorem consistent_eval (hbuiltins : r.OnlyBuiltins) (node : Node) :
    (node.eval r ctx).Consistent := by
  induction node using Node.induction with
  | literal p text | quoted p text => exact Outcome.consistent_literal text
  | field p name =>
    rw [eval, evalField_eq]
    split
    · exact Outcome.consistent_ofField _
    · exact Outcome.consistent_unresolved
  | fieldList p name =>
    rw [eval, evalFieldList_eq]
    split
    · exact Outcome.consistent_ofField _
    · exact Outcome.consistent_unresolved
  | call p name args ih =>
    have hargs : ∀ o ∈ args.map (evalSequence r ctx), o.Consistent := by
      rw [List.forall_mem_map]
      intro arg harg
      exact consistent_evalSequence_of (ih arg harg)
    by_cases hself : (call p name args).resolves r
    · obtain ⟨f, hf, heval⟩ := eval_call_of_resolves ctx hself
      obtain ⟨b, hbody⟩ := hbuiltins name f hf
      rw [heval]
      refine f.consistent_apply ctx ?_ hargs
      rw [f.run_of_body ctx _ hbody]
      exact b.consistent_run ctx hargs
    · rw [eval_of_resolves_eq_false (Bool.eq_false_iff.2 hself)]
      exact Outcome.consistent_unresolved
  | group p content ih =>
    rw [eval_group]
    exact (consistent_evalSequence_of ih).evalGroup

theorem consistent_evalSequence (hbuiltins : r.OnlyBuiltins) (nodes : List Node) :
    (evalSequence r ctx nodes).Consistent :=
  consistent_evalSequence_of fun node _ => consistent_eval hbuiltins node

end Node

/-- **Flags do not contradict each other.** Where all functions are built-in ones, every node, every
argument of a call, every sequence and every branch of a script that fails counts as empty. A group
that shows something neither fails nor counts as empty. -/
theorem flags_consistent {r : Registry} (hbuiltins : r.OnlyBuiltins) (ctx : Context) :
    (∀ node : Node, (node.eval r ctx).success = false → (node.eval r ctx).isEmpty = true)
      ∧ (∀ args : List (List Node), ∀ o ∈ Node.evalArgs r ctx args,
        o.success = false → o.isEmpty = true)
      ∧ (∀ nodes : List Node, (Node.evalSequence r ctx nodes).success = false →
        (Node.evalSequence r ctx nodes).isEmpty = true)
      ∧ (∀ nodes : List Node, ∀ o ∈ evaluate nodes r ctx.record ctx.settings,
        o.success = false → o.isEmpty = true)
      ∧ ∀ (p : Nat) (content : List Node), ((Node.group p content).eval r ctx).text ≠ "" →
        ((Node.group p content).eval r ctx).success = true
          ∧ ((Node.group p content).eval r ctx).isEmpty = false := by
  refine ⟨Node.consistent_eval hbuiltins, ?_, Node.consistent_evalSequence hbuiltins, ?_, ?_⟩
  · intro args o ho
    rw [Node.evalArgs_eq] at ho
    obtain ⟨arg, -, rfl⟩ := List.mem_map.1 ho
    exact Node.consistent_evalSequence hbuiltins arg
  · intro nodes o ho
    obtain ⟨bindings, -, rfl⟩ := List.mem_map.1 ho
    exact Node.consistent_evalSequence hbuiltins nodes
  · intro p content htext
    rw [Node.eval_group] at htext ⊢
    exact Outcome.isPresent_iff.1 (isPresent_evalGroup_of_text htext)

/-- In a closed registry a call passes on an argument with a name that is not known, and a group
beside it shows the value of a field. -/
theorem flags_consistent_closed :
    let r : Registry := ⟨.ofList [("title", FieldKind.single)], Registry.builtins, false⟩
    let record : Record := fun name => if name = "title" then .single "x" else .missing
    let ctx : Context := ⟨record, .empty, {}⟩
    let chosen : List (List Node) := [[.literal 4 ""], [.literal 6 "a"], [.field 8 "titel"]]
    let shown : Node := .group 16 [.field 17 "title"]
    let nodes : List Node := [.call 0 "if" chosen, shown]
    r.OnlyBuiltins
      ∧ ((Node.call 0 "if" chosen).eval r ctx).success = false
      ∧ ((Node.call 0 "if" chosen).eval r ctx).isEmpty = true
      ∧ (∀ o ∈ Node.evalArgs r ctx chosen, o.success = false → o.isEmpty = true)
      ∧ (Node.evalSequence r ctx nodes).isEmpty = true
      ∧ (∀ o ∈ evaluate nodes r record {}, o.success = false → o.isEmpty = true)
      ∧ (shown.eval r ctx).text = "x" ∧ (shown.eval r ctx).success = true := by
  intro r record ctx chosen shown nodes
  have hbuiltins : r.OnlyBuiltins := fun name f hf => Registry.onlyBuiltins_standard name f hf
  obtain ⟨hfailed, hsequence, htext⟩ :
      ((Node.call 0 "if" chosen).eval r ctx).success = false
        ∧ (Node.evalSequence r ctx nodes).success = false
        ∧ (shown.eval r ctx).text = "x" := by decide +kernel
  obtain ⟨hnode, hargs, hnodes, hbranches, hgroup⟩ := flags_consistent hbuiltins ctx
  have hshown := hgroup 16 [.field 17 "title"] (by rw [htext]; decide)
  exact ⟨hbuiltins, hfailed, hnode _ hfailed, hargs chosen, hnodes nodes hsequence,
    hbranches nodes, htext, hshown.1⟩

end TitleScript
