import TitleScript.Proofs.Evaluation.Walk
import TitleScript.Proofs.Registry.Builtins
import TitleScript.Proofs.Script.Shape

/-!
# What control functions stand for

Most functions that choose can be written with others. Which argument a call passes on depends on
the truth of arguments alone, and its flags are those of that argument, so a chain of calls passes
on what one call with all the arguments would.

Two things could come between. A chain cuts the text that it passes on once for every call, but text
that has been cut fits. And a test inside of a condition is an outcome of its own. The functions on
truth look at truth only, so they have no flags and are true exactly if the test succeeds. The one
that compares numbers passes on the flags of what it compares, so it can be used in a condition only
where these are present.

Where calls are written makes no difference to what they yield, so they are compared without their
positions.

## Main definitions

* `OrElseChain`, `ChooseChain` — chains of calls with two and with three arguments
* `Expands` — what control functions stand for

## Main results

* `OrElseChain.eval_eq`, `ChooseChain.eval_eq` — the outcome of a chain
* `eval_eq_of_expands` — a call and what it stands for yield the same
-/

namespace TitleScript

open Node (evalSequence)

/-! ### Outcomes of tests, and outcomes cut twice -/

namespace Outcome

@[simp] theorem truncate_truncate (o : Outcome) (room : Nat) :
    (o.truncate room).truncate room = o.truncate room := by
  rw [truncate, truncate, Text.cut_cut]

theorem truncate_ofBool (b : Bool) : (ofBool b).truncate maxResultBytes = ofBool b := by
  cases b <;> decide +kernel

@[simp] theorem truthy_ofBool (b : Bool) : (ofBool b).truthy = b := by
  cases b <;> decide +kernel

/-- The flags of something that is present change nothing. -/
theorem absorb_of_isPresent {o p : Outcome} (h : p.isPresent) : o.absorb p = o := by
  obtain ⟨hsuccess, hempty⟩ := isPresent_iff.1 h
  rw [absorb, hsuccess, hempty, Bool.and_true, Bool.or_false]

end Outcome

/-- The first argument that is true is the one in front, or else the first of the others. -/
theorem Control.firstOf_cons (a : Outcome) {args : List Outcome} (h : args ≠ []) :
    firstOf (a :: args) = if a.truthy then a else firstOf args := by
  obtain ⟨b, args, rfl⟩ := List.exists_cons_of_ne_nil h
  rw [firstOf, List.dropLast_cons_cons, List.find?_cons]
  cases a.truthy <;> rfl

/-! ### Positions -/

/-- Evaluation does not look at positions. -/
theorem Node.eval_shape {r : Registry} {ctx : Context} (node : Node) :
    node.shape.eval r ctx = node.eval r ctx := by
  induction node using Node.induction with
  | literal p text | quoted p text | field p name | fieldList p name => rfl
  | call p name args ih =>
    have hargs : (shapesOfArgs args).map (evalSequence r ctx) = args.map (evalSequence r ctx) := by
      rw [shapesOfArgs_eq]
      refine map_evalSequence_map fun arg harg => ?_
      rw [shapesOf_eq]
      exact evalSequence_map fun node hnode => ih arg harg node hnode
    rw [shape, eval_call, eval_call, hargs]
  | group p content ih =>
    rw [shape, eval_group, eval_group, shapesOf_eq, evalSequence_map ih]

/-! ### Calls of control functions -/

section Calls

variable {r : Registry} {ctx : Context} (hr : r.functions = Registry.builtins)

include hr

theorem eval_builtin (b : Builtin) {args : List (List Node)}
    (hargs : b.arity.accepts args.length) (p : Nat) :
    (Node.call p b.name args).eval r ctx
      = (Function.ofBuiltin b).apply ctx (args.map (evalSequence r ctx)) := by
  rw [Node.eval_call, evalCall, Registry.function?_name hr]
  simp only [List.length_map]
  exact if_pos hargs

/-- A call of a function that does not look at all of its arguments. -/
theorem eval_of_lazy {b : Builtin} (hlazy : b.strategy = .lazy) {args : List (List Node)}
    (hargs : b.arity.accepts args.length) (p : Nat) :
    (Node.call p b.name args).eval r ctx
      = (b.run ctx (args.map (evalSequence r ctx))).truncate maxResultBytes := by
  have hstrategy : (Function.ofBuiltin b).strategy = .lazy := hlazy
  rw [eval_builtin hr b hargs, Function.apply_of_lazy ctx _ hstrategy]
  rfl

theorem eval_if (p : Nat) (a b c : List Node) :
    (Node.call p "if" [a, b, c]).eval r ctx
      = (if (evalSequence r ctx a).truthy then evalSequence r ctx b
          else evalSequence r ctx c).truncate maxResultBytes :=
  eval_of_lazy hr (b := .choose) rfl rfl p

theorem eval_if2 (p : Nat) (a b : List Node) :
    (Node.call p "if2" [a, b]).eval r ctx
      = (if (evalSequence r ctx a).truthy then evalSequence r ctx a
          else evalSequence r ctx b).truncate maxResultBytes :=
  eval_of_lazy hr (b := .orElse) rfl rfl p

theorem eval_if3 (p : Nat) {args : List (List Node)} (h : 2 ≤ args.length) :
    (Node.call p "if3" args).eval r ctx
      = (Control.firstOf (args.map (evalSequence r ctx))).truncate maxResultBytes :=
  have hargs := (Arity.accepts_atLeast 2 _).trans (decide_eq_true h)
  eval_of_lazy hr (b := .firstOf) rfl hargs p

theorem eval_not (p : Nat) (a : List Node) :
    (Node.call p "not" [a]).eval r ctx = .ofBool !(evalSequence r ctx a).truthy :=
  (eval_of_lazy hr (b := .not) rfl rfl p).trans (Outcome.truncate_ofBool _)

theorem eval_and (p : Nat) {args : List (List Node)} (h : args ≠ []) :
    (Node.call p "and" args).eval r ctx
      = .ofBool ((args.map (evalSequence r ctx)).all Outcome.truthy) :=
  have hargs := (Arity.accepts_atLeast 1 _).trans (decide_eq_true (List.length_pos_iff.2 h))
  (eval_of_lazy hr (b := .and) rfl hargs p).trans (Outcome.truncate_ofBool _)

theorem eval_or (p : Nat) {args : List (List Node)} (h : args ≠ []) :
    (Node.call p "or" args).eval r ctx
      = .ofBool ((args.map (evalSequence r ctx)).any Outcome.truthy) :=
  have hargs := (Arity.accepts_atLeast 1 _).trans (decide_eq_true (List.length_pos_iff.2 h))
  (eval_of_lazy hr (b := .or) rfl hargs p).trans (Outcome.truncate_ofBool _)

theorem eval_ifgreater (p : Nat) (a b x y : List Node) :
    (Node.call p "ifgreater" [a, b, x, y]).eval r ctx
      = (if Control.greaterNumber [evalSequence r ctx a, evalSequence r ctx b]
          then evalSequence r ctx x else evalSequence r ctx y).truncate maxResultBytes :=
  eval_of_lazy hr (b := .ifGreater) rfl rfl p

/-- The comparison of two numbers, where neither argument has flags to pass on. -/
theorem eval_greater (p : Nat) {a b : List Node} (ha : (evalSequence r ctx a).isPresent)
    (hb : (evalSequence r ctx b).isPresent) :
    (Node.call p "greater" [a, b]).eval r ctx
      = .ofBool (Control.greaterNumber [evalSequence r ctx a, evalSequence r ctx b]) := by
  have hstrategy : (Function.ofBuiltin .greater).strategy = .eager := rfl
  calc (Node.call p "greater" [a, b]).eval r ctx
      = (Function.ofBuiltin .greater).apply ctx [evalSequence r ctx a, evalSequence r ctx b] :=
        eval_builtin hr .greater rfl p
    _ = (Number.greater [evalSequence r ctx a, evalSequence r ctx b]).truncate maxResultBytes := by
        rw [Function.apply_of_eager ctx _ hstrategy, List.foldl_cons, List.foldl_cons,
          List.foldl_nil, Outcome.absorb_of_isPresent ha, Outcome.absorb_of_isPresent hb]
        rfl
    _ = _ := Outcome.truncate_ofBool _

end Calls

/-! ### Chains

Nodes are put together without their positions here, as in the shape of a tree. -/

/-- A chain of calls with two arguments: `$if2(a,$if2(b,…$if2(y,z)…))` for two or more sequences. -/
inductive OrElseChain : List (List Node) → Node → Prop
  | two {a b} : OrElseChain [a, b] (.call 0 "if2" [a, b])
  | more {a args chain} : OrElseChain args chain →
      OrElseChain (a :: args) (.call 0 "if2" [a, [chain]])

/-- A chain of calls with three arguments: `$if(a,$if(b,…$if(z,x,y)…,y),y)` for one or more
sequences, with `x` where all of them are true and `y` where one is not. -/
inductive ChooseChain (x y : List Node) : List (List Node) → Node → Prop
  | one {a} : ChooseChain x y [a] (.call 0 "if" [a, x, y])
  | more {a args chain} : ChooseChain x y args chain →
      ChooseChain x y (a :: args) (.call 0 "if" [a, [chain], y])

namespace OrElseChain

variable {args : List (List Node)} {chain : Node}

theorem two_le_length (h : OrElseChain args chain) : 2 ≤ args.length := by
  induction h with
  | two => exact Nat.le_refl 2
  | more _ ih => exact Nat.le_succ_of_le ih

theorem ne_nil (h : OrElseChain args chain) : args ≠ [] := by
  cases h <;> exact List.cons_ne_nil _ _

/-- **A chain of calls with two arguments** passes on the first sequence that is true, and the last
one if none before it is. -/
theorem eval_eq {r : Registry} {ctx : Context} (hr : r.functions = Registry.builtins)
    (h : OrElseChain args chain) :
    chain.eval r ctx
      = (Control.firstOf (args.map (evalSequence r ctx))).truncate maxResultBytes := by
  induction h with
  | two =>
    rw [eval_if2 hr, List.map_cons, List.map_singleton,
      Control.firstOf_cons _ (List.cons_ne_nil _ _)]
    rfl
  | @more a args chain hchain ih =>
    have hne : args.map (evalSequence r ctx) ≠ [] := mt List.map_eq_nil_iff.1 hchain.ne_nil
    rw [eval_if2 hr, Node.evalSequence_singleton, ih, List.map_cons, Control.firstOf_cons _ hne]
    split
    · rfl
    · exact Outcome.truncate_truncate _ _

end OrElseChain

theorem ChooseChain.ne_nil {x y : List Node} {args : List (List Node)} {chain : Node}
    (h : ChooseChain x y args chain) : args ≠ [] := by
  cases h <;> exact List.cons_ne_nil _ _

/-- **A chain of calls with three arguments** chooses by whether all sequences are true. -/
theorem ChooseChain.eval_eq {r : Registry} {ctx : Context} (hr : r.functions = Registry.builtins)
    {x y : List Node} {args : List (List Node)} {chain : Node} (h : ChooseChain x y args chain) :
    chain.eval r ctx
      = (if (args.map (evalSequence r ctx)).all Outcome.truthy then evalSequence r ctx x
          else evalSequence r ctx y).truncate maxResultBytes := by
  induction h with
  | one =>
    rw [eval_if hr, List.map_singleton, List.all_cons, List.all_nil, Bool.and_true]
  | @more a args chain _ ih =>
    rw [eval_if hr, Node.evalSequence_singleton, ih, List.map_cons, List.all_cons]
    cases (evalSequence r ctx a).truthy with
    | true => simp only [if_true, Bool.true_and, Outcome.truncate_truncate]
    | false => rfl

/-- Whether the negations of sequences are true. -/
theorem any_truthy_map_not {r : Registry} {ctx : Context} (hr : r.functions = Registry.builtins)
    (args : List (List Node)) :
    ((args.map fun arg => [.call 0 "not" [arg]]).map (evalSequence r ctx)).any Outcome.truthy
      = !(args.map (evalSequence r ctx)).all Outcome.truthy := by
  induction args with
  | nil => rfl
  | cons arg args ih =>
    rw [List.map_cons, List.map_cons, List.map_cons, List.any_cons, List.all_cons, ih,
      Node.evalSequence_singleton, eval_not hr, Outcome.truthy_ofBool, Bool.not_and]

/-! ### What calls stand for -/

/-- A call of a control function and what it stands for in a context, both without positions. -/
inductive Expands (r : Registry) (ctx : Context) : Node → Node → Prop
  /-- `$if2(a,b)` and `$if(a,a,b)` -/
  | orElse {a b} : Expands r ctx (.call 0 "if2" [a, b]) (.call 0 "if" [a, a, b])
  /-- `$if3(a,b,…,y,z)` and `$if2(a,$if2(b,…$if2(y,z)…))` -/
  | firstOf {args chain} : OrElseChain args chain → Expands r ctx (.call 0 "if3" args) chain
  /-- `$if(a,b,c)` and `$if($not(a),c,b)` -/
  | choose {a b c} :
      Expands r ctx (.call 0 "if" [a, b, c]) (.call 0 "if" [[.call 0 "not" [a]], c, b])
  /-- `$not($and(a,…,z))` and `$or($not(a),…,$not(z))` -/
  | negation {args} : args ≠ [] →
      Expands r ctx (.call 0 "not" [[.call 0 "and" args]])
        (.call 0 "or" (args.map fun arg => [.call 0 "not" [arg]]))
  /-- `$if($and(a,b,…,z),x,y)` and `$if(a,$if(b,…$if(z,x,y)…,y),y)` -/
  | conjunction {x y args chain} : ChooseChain x y args chain →
      Expands r ctx (.call 0 "if" [[.call 0 "and" args], x, y]) chain
  /-- `$ifgreater(a,b,x,y)` and `$if($greater(a,b),x,y)`, where `a` and `b` are present -/
  | ifGreater {a b x y} : (evalSequence r ctx a).isPresent → (evalSequence r ctx b).isPresent →
      Expands r ctx (.call 0 "ifgreater" [a, b, x, y])
        (.call 0 "if" [[.call 0 "greater" [a, b]], x, y])

theorem Expands.eval_eq {r : Registry} (hr : r.functions = Registry.builtins) {ctx : Context}
    {call expansion : Node} (h : Expands r ctx call expansion) :
    call.eval r ctx = expansion.eval r ctx := by
  cases h with
  | orElse => rw [eval_if2 hr, eval_if hr]
  | firstOf hchain => rw [eval_if3 hr _ hchain.two_le_length, hchain.eval_eq hr]
  | @choose a b c =>
    rw [eval_if hr, eval_if hr, Node.evalSequence_singleton, eval_not hr, Outcome.truthy_ofBool]
    cases (evalSequence r ctx a).truthy <;> rfl
  | @negation args hne =>
    have hne' : (args.map fun arg => [Node.call 0 "not" [arg]]) ≠ [] :=
      mt List.map_eq_nil_iff.1 hne
    rw [eval_not hr, Node.evalSequence_singleton, eval_and hr _ hne, Outcome.truthy_ofBool,
      eval_or hr _ hne', any_truthy_map_not hr]
  | conjunction hchain =>
    rw [eval_if hr, Node.evalSequence_singleton, eval_and hr _ hchain.ne_nil,
      Outcome.truthy_ofBool, hchain.eval_eq hr]
  | ifGreater ha hb =>
    rw [eval_ifgreater hr, eval_if hr, Node.evalSequence_singleton, eval_greater hr _ ha hb,
      Outcome.truthy_ofBool]

/-- **Control functions agree with what they stand for.** With the built-in functions, a call of a
control function yields the text and the flags of the call that it stands for, wherever the two and
their arguments are written. -/
theorem eval_eq_of_expands {r : Registry} (hr : r.functions = Registry.builtins) {ctx : Context}
    {call expansion : Node} (h : Expands r ctx call.shape expansion.shape) :
    call.eval r ctx = expansion.eval r ctx := by
  rw [← Node.eval_shape call, h.eval_eq hr, Node.eval_shape]

/-- A choice between three sequences, the first of which is a field without a value, and a
comparison of two numbers, with the standard registry. -/
theorem eval_eq_of_expands_standard :
    let ctx : Context := ⟨fun _ => .missing, ⟨[]⟩, {}⟩
    let choice : Node := .call 0 "if3" [[.field 5 "a"], [.literal 9 "b"], [.literal 11 "c"]]
    let chain : Node :=
      .call 0 "if2" [[.field 5 "a"], [.call 9 "if2" [[.literal 14 "b"], [.literal 16 "c"]]]]
    let comparison : Node :=
      .call 0 "ifgreater" [[.literal 11 "9"], [.literal 13 "10"], [.field 16 "a"], []]
    let condition : Node := .call 0 "if"
      [[.call 4 "greater" [[.literal 13 "9"], [.literal 15 "10"]]], [.field 19 "a"], []]
    Registry.standard.functions = Registry.builtins
      ∧ Expands .standard ctx choice.shape chain.shape
      ∧ choice.eval .standard ctx = chain.eval .standard ctx
      ∧ Expands .standard ctx comparison.shape condition.shape
      ∧ comparison.eval .standard ctx = condition.eval .standard ctx := by
  intro ctx choice chain comparison condition
  have hr : Registry.standard.functions = Registry.builtins := rfl
  have hchoice : Expands .standard ctx choice.shape chain.shape := .firstOf (.more .two)
  have hcomparison : Expands .standard ctx comparison.shape condition.shape := .ifGreater rfl rfl
  exact ⟨hr, hchoice, eval_eq_of_expands hr hchoice, hcomparison,
    eval_eq_of_expands hr hcomparison⟩

end TitleScript
