import TitleScript.Evaluation
import TitleScript.Proofs.Function
import TitleScript.Proofs.Script.Preorder

/-!
# The walk over a tree

Evaluation goes through a tree with one outcome in its hands, the one of what came before in the
same sequence. Since appending is associative, the outcome of a sequence is made of the outcomes of
its nodes, each evaluated on its own: the texts are concatenated, and each flag is the conjunction
or disjunction of theirs. So what a sequence yields follows from what its nodes yield.

A field without values and a list field that is not bound have the empty text. With that text a
known field, in either form, evaluates to its text. A node with a name that is not known, or with a
number of arguments that is not accepted, is unresolved whatever is inside it.

## Main definitions

* `Context.fieldText`, `Context.boundText` — the text of a field and of a list field
* `Node.resolves` — the name of a node is known, and its number of arguments accepted
* `Node.isEager` — a node does not call a function that leaves out arguments

## Main results

* `Node.evalSequence_cons`, `Node.evalArgs_eq` — sequences and arguments by their parts
* `Node.text_evalSequence`, `Node.success_evalSequence`, `Node.isPresent_evalSequence`
* `evalField_eq`, `evalFieldList_eq`, `Node.eval_call_of_resolves` — constructs that resolve
* `Node.eval_of_resolves_eq_false` — constructs that do not
-/

namespace TitleScript

namespace Node

variable {registry : Registry} {ctx : Context}

theorem evalSequenceFrom_eq (nodes : List Node) (before : Outcome) :
    evalSequenceFrom registry ctx before nodes
      = before.append (evalSequence registry ctx nodes) := by
  induction nodes generalizing before with
  | nil => exact (Outcome.append_neutral before).symm
  | cons node nodes ih =>
    rw [evalSequence, evalSequenceFrom, evalSequenceFrom, ih, ih (.append .neutral _),
      Outcome.neutral_append, Outcome.append_assoc]

@[simp]
theorem evalSequence_nil : evalSequence registry ctx [] = .neutral := rfl

@[simp]
theorem evalSequence_cons (node : Node) (nodes : List Node) :
    evalSequence registry ctx (node :: nodes)
      = (node.eval registry ctx).append (evalSequence registry ctx nodes) := by
  rw [evalSequence, evalSequenceFrom, evalSequenceFrom_eq, Outcome.neutral_append]

theorem evalSequence_singleton (node : Node) :
    evalSequence registry ctx [node] = node.eval registry ctx := by
  rw [evalSequence_cons, evalSequence_nil, Outcome.append_neutral]

theorem evalArgs_eq (args : List (List Node)) :
    evalArgs registry ctx args = args.map (evalSequence registry ctx) := by
  induction args with
  | nil => rfl
  | cons arg args ih => rw [evalArgs, ih, List.map_cons, evalSequence]

theorem eval_call (p : Nat) (name : String) (args : List (List Node)) :
    (call p name args).eval registry ctx
      = evalCall registry ctx name (args.map (evalSequence registry ctx)) := by
  rw [eval, evalArgs_eq]

theorem eval_group (p : Nat) (content : List Node) :
    (group p content).eval registry ctx = evalGroup (evalSequence registry ctx content) := by
  rw [eval, evalSequence]

/-- Where the nodes of a sequence are changed so that each yields what it did, the sequence yields
what it did, too. -/
theorem evalSequence_map {ctx' : Context} {change : Node → Node} {nodes : List Node}
    (h : ∀ node ∈ nodes, (change node).eval registry ctx' = node.eval registry ctx) :
    evalSequence registry ctx' (nodes.map change) = evalSequence registry ctx nodes := by
  induction nodes with
  | nil => rfl
  | cons node nodes ih =>
    rw [List.forall_mem_cons] at h
    rw [List.map_cons, evalSequence_cons, evalSequence_cons, h.1, ih h.2]

theorem evalSequence_of_forall_eval {ctx' : Context} {nodes : List Node}
    (h : ∀ node ∈ nodes, node.eval registry ctx = node.eval registry ctx') :
    evalSequence registry ctx nodes = evalSequence registry ctx' nodes := by
  have hmap := evalSequence_map h
  rwa [List.map_id_fun'] at hmap

theorem evalSequence_append (nodes more : List Node) :
    evalSequence registry ctx (nodes ++ more)
      = (evalSequence registry ctx nodes).append (evalSequence registry ctx more) := by
  induction nodes with
  | nil => exact (Outcome.neutral_append _).symm
  | cons node nodes ih =>
    rw [List.cons_append, evalSequence_cons, ih, evalSequence_cons, Outcome.append_assoc]

/-- Where the nodes of a sequence are replaced by sequences that yield what they did, the sequence
yields what it did, too. -/
theorem evalSequence_flatMap {change : Node → List Node} {nodes : List Node}
    (h : ∀ node ∈ nodes, evalSequence registry ctx (change node) = node.eval registry ctx) :
    evalSequence registry ctx (nodes.flatMap change) = evalSequence registry ctx nodes := by
  induction nodes with
  | nil => rfl
  | cons node nodes ih =>
    rw [List.forall_mem_cons] at h
    rw [List.flatMap_cons, evalSequence_append, evalSequence_cons, h.1, ih h.2]

/-- Where the arguments of a call are changed so that each yields what it did, the call has the same
outcomes to go by. -/
theorem map_evalSequence_map {ctx' : Context} {change : List Node → List Node}
    {args : List (List Node)}
    (h : ∀ arg ∈ args, evalSequence registry ctx' (change arg) = evalSequence registry ctx arg) :
    (args.map change).map (evalSequence registry ctx')
      = args.map (evalSequence registry ctx) := by
  rw [List.map_map]
  exact List.map_congr_left h

/-! ### Sequences by their nodes -/

/-- The text of a sequence is that of its nodes, one after another. -/
theorem text_evalSequence (nodes : List Node) :
    (evalSequence registry ctx nodes).text
      = String.join (nodes.map fun node => (node.eval registry ctx).text) := by
  induction nodes with
  | nil => rfl
  | cons node nodes ih =>
    rw [evalSequence_cons, List.map_cons, String.join_cons, ← ih]
    rfl

/-- A sequence fails if one of its nodes does. -/
theorem success_evalSequence {nodes : List Node} :
    (evalSequence registry ctx nodes).success
      ↔ ∀ node ∈ nodes, (node.eval registry ctx).success := by
  induction nodes with
  | nil => simp [Outcome.neutral]
  | cons node nodes ih =>
    rw [evalSequence_cons, List.forall_mem_cons, ← ih, Outcome.append, Bool.and_eq_true]

/-- A sequence is present if all of its nodes are. -/
theorem isPresent_evalSequence {nodes : List Node} :
    (evalSequence registry ctx nodes).isPresent
      ↔ ∀ node ∈ nodes, (node.eval registry ctx).isPresent := by
  induction nodes with
  | nil => simp
  | cons node nodes ih =>
    rw [evalSequence_cons, List.forall_mem_cons, ← ih, Outcome.isPresent_append, Bool.and_eq_true]

end Node

/-! ### Fields by their text -/

/-- A value other than the empty text is text like any other. -/
theorem Outcome.ofField_of_ne {value : String} (h : value ≠ "") :
    ofField value = literal value := by
  rw [ofField, literal, Outcome.mk.injEq]
  simp [h]

/-- The text of a field: its values joined, and the empty text if there are none. -/
def Context.fieldText (ctx : Context) (name : String) : String :=
  ctx.settings.valueSeparator.intercalate (ctx.record name).toList

/-- The text of a list field: the value it is bound to, and the empty text if there is none. -/
def Context.boundText (ctx : Context) (name : String) : String :=
  (ctx.bindings.get? name).getD ""

theorem evalField_eq (registry : Registry) (ctx : Context) (name : String) :
    evalField registry ctx name
      = if registry.resolvesField name then .ofField (ctx.fieldText name) else .unresolved := by
  rw [evalField, Context.fieldText]
  cases ctx.record name with
  | missing | multi values => rfl
  | single value =>
    have hone : ctx.settings.valueSeparator.intercalate [value] = value := by
      simp
    rw [FieldValue.toList, hone]

theorem evalFieldList_eq (registry : Registry) (ctx : Context) (name : String) :
    evalFieldList registry ctx name
      = if registry.resolvesField name then .ofField (ctx.boundText name) else .unresolved := by
  rw [evalFieldList, Context.boundText]
  cases ctx.bindings.get? name with
  | none | some value => rfl

/-! ### Groups -/

theorem success_evalGroup (content : Outcome) : (evalGroup content).success = content.success := by
  rw [evalGroup]
  split
  next hshown => exact (Bool.and_eq_true_iff.1 hshown).1.symm
  next => rfl

/-- A group that is shown has the text of its content, and flags that say nothing. -/
theorem evalGroup_of_isPresent {content : Outcome} (h : content.isPresent) :
    evalGroup content = .literal content.text :=
  if_pos h

/-- A group that is not shown has no text, and the flags of its content. -/
theorem evalGroup_of_not_isPresent {content : Outcome} (h : content.isPresent = false) :
    evalGroup content = { content with text := "" } :=
  if_neg (Bool.eq_false_iff.1 h)

/-- Around a group its content counts as it does inside. -/
theorem isPresent_evalGroup (content : Outcome) :
    (evalGroup content).isPresent = content.isPresent := by
  cases h : content.isPresent with
  | true => rw [evalGroup_of_isPresent h, Outcome.isPresent_literal]
  | false =>
    rw [evalGroup_of_not_isPresent h]
    exact h

/-! ### Names that are not known -/

namespace Node

/-- The name in the node itself is known and, if it is a call, its number of arguments accepted. -/
def resolves (r : Registry) : Node → Bool
  | field _ name | fieldList _ name => r.resolvesField name
  | call _ name args => (r.function? name).any fun f => f.arity.accepts args.length
  | literal .. | quoted .. | group .. => true

/-- The node is no call of a function that may leave out arguments. A call with a number of
arguments that is not accepted does not get as far as the function. -/
def isEager (r : Registry) : Node → Bool
  | call _ name args =>
    (r.function? name).all fun f => f.arity.accepts args.length → f.strategy = .eager
  | _ => true

variable {registry : Registry} {ctx : Context}

/-- What does not resolve is unresolved, whatever is inside it. -/
theorem eval_of_resolves_eq_false {node : Node} (h : node.resolves registry = false) :
    node.eval registry ctx = .unresolved := by
  cases node with
  | literal p text | quoted p text | group p content => contradiction
  | field p name => exact (evalField_eq registry ctx name).trans (if_neg (Bool.eq_false_iff.1 h))
  | fieldList p name =>
    exact (evalFieldList_eq registry ctx name).trans (if_neg (Bool.eq_false_iff.1 h))
  | call p name args =>
    rw [eval_call, evalCall]
    rw [resolves] at h
    cases hf : registry.function? name with
    | none => rfl
    | some f =>
      rw [hf, Option.any_some] at h
      simp [h]

/-- What does not fail resolves by itself. -/
theorem resolves_of_success_eval {node : Node} (h : (node.eval registry ctx).success) :
    node.resolves registry := by
  cases hresolves : node.resolves registry with
  | true => rfl
  | false =>
    rw [eval_of_resolves_eq_false hresolves] at h
    contradiction

/-- A call that resolves is a call of some function with its arguments evaluated. -/
theorem eval_call_of_resolves (ctx : Context) {p : Nat} {name : String} {args : List (List Node)}
    (h : (call p name args).resolves registry) :
    ∃ f : Function, registry.function? name = some f
      ∧ (call p name args).eval registry ctx
        = f.apply ctx (args.map (evalSequence registry ctx)) := by
  obtain ⟨f, hf, haccepts⟩ := (Option.any_eq_true _ _).1 h
  refine ⟨f, hf, ?_⟩
  simp only [eval_call, evalCall, hf, List.length_map, haccepts, if_true]

theorem strategy_of_isEager {p : Nat} {name : String} {args : List (List Node)}
    (h : (call p name args).isEager registry) (hself : (call p name args).resolves registry)
    {f : Function} (hf : registry.function? name = some f) : f.strategy = .eager := by
  rw [isEager, hf, Option.all_some] at h
  rw [resolves, hf, Option.any_some] at hself
  exact of_decide_eq_true h hself

end Node

end TitleScript
