import TitleScript.Proofs.Evaluation.Walk

/-!
# What evaluation looks at

Evaluation reads the record, the bindings and the settings in fields, list fields and calls, and
nowhere else. So contexts that agree on those of a script give the same outcome, however they
differ otherwise.

The limit on the number of branches is of no use within a branch. No built-in function looks at it,
but a function of the host may.

## Main definitions

* `Node.Agrees` — two contexts are alike for what a node itself looks at
* `Function.IgnoresLimit` — the limit on the number of branches has no influence on the function

## Main results

* `Node.evalSequence_congr` — contexts that agree on all nodes give the same outcome
* `Node.evalSequence_limit` — the limit has no influence within a branch
-/

namespace TitleScript

namespace Node

/-- Two contexts are alike for what the node looks at, apart from the nodes inside it. -/
def Agrees (registry : Registry) (ctx ctx' : Context) : Node → Prop
  | literal _ _ | quoted _ _ | group _ _ => True
  | field _ name => evalField registry ctx name = evalField registry ctx' name
  | fieldList _ name => evalFieldList registry ctx name = evalFieldList registry ctx' name
  | call _ name _ => evalCall registry ctx name = evalCall registry ctx' name

variable {registry : Registry} {ctx ctx' : Context}

theorem eval_congr (node : Node) (h : ∀ inner ∈ node.preorder, inner.Agrees registry ctx ctx') :
    node.eval registry ctx = node.eval registry ctx' := by
  induction node using Node.induction with
  | literal p text | quoted p text => rfl
  | field p name => exact h _ List.mem_cons_self
  | fieldList p name => exact h _ List.mem_cons_self
  | call p name args ih =>
    rw [forall_mem_preorder_call] at h
    have hname : evalCall registry ctx name = evalCall registry ctx' name := h.1
    have hargs : args.map (evalSequence registry ctx) = args.map (evalSequence registry ctx') :=
      List.map_congr_left fun arg harg => evalSequence_of_forall_eval fun node hnode =>
        ih arg harg node hnode (h.2 arg harg node hnode)
    rw [eval_call, eval_call, hname, hargs]
  | group p content ih =>
    rw [forall_mem_preorder_group] at h
    have hcontent := evalSequence_of_forall_eval fun node hnode => ih node hnode (h.2 node hnode)
    rw [eval_group, eval_group, hcontent]

/-- **Contexts that agree on all nodes of a script give the same outcome.** -/
theorem evalSequence_congr {nodes : List Node}
    (h : ∀ node ∈ preorderOf nodes, node.Agrees registry ctx ctx') :
    evalSequence registry ctx nodes = evalSequence registry ctx' nodes := by
  rw [forall_mem_preorderOf] at h
  exact evalSequence_of_forall_eval fun node hnode => eval_congr node (h node hnode)

end Node

/-- Calls of a name are alike in contexts that are alike for the function of that name. -/
theorem evalCall_congr {registry : Registry} {ctx ctx' : Context} {name : String}
    (h : ∀ f : Function, registry.function? name = some f → f.run ctx = f.run ctx') :
    evalCall registry ctx name = evalCall registry ctx' name := by
  funext args
  rw [evalCall, evalCall]
  cases hf : registry.function? name with
  | none => rfl
  | some f => simp only [Function.apply, h f hf]

/-! ### The limit on the number of branches -/

/-- The limit on the number of branches has no influence on what the function computes. -/
def Function.IgnoresLimit (f : Function) : Prop :=
  ∀ (ctx : Context) (limit : Nat),
    f.run { ctx with settings := { ctx.settings with maxBranches := limit } } = f.run ctx

theorem Function.ignoresLimit_builtin (arity : Arity) (b : Builtin) :
    Function.IgnoresLimit ⟨arity, .builtin b⟩ := by
  intro ctx limit
  cases b <;> rfl

/-- The limit on the number of branches has no influence within a branch. -/
theorem Node.evalSequence_limit {registry : Registry}
    (h : ∀ (name : String) (f : Function), registry.function? name = some f → f.IgnoresLimit)
    (ctx : Context) (limit : Nat) (nodes : List Node) :
    evalSequence registry { ctx with settings := { ctx.settings with maxBranches := limit } } nodes
      = evalSequence registry ctx nodes := by
  refine evalSequence_congr fun node _ => ?_
  cases node with
  | literal p text | quoted p text | group p content => trivial
  | field p name | fieldList p name => rfl
  | call p name args =>
    exact evalCall_congr fun f hf => h name f hf ctx limit

end TitleScript
