import TitleScript.Proofs.Evaluation.Walk
import TitleScript.Proofs.Registry

/-!
# List fields filled in

A branch is the script with the values of its list fields filled in. What is filled in is quoted
text, since a value stands for itself whatever characters it has. A field that is bound to the empty
text counts as empty where quoted text would not, so it is left unbound instead, and so is a name
that is not known.

Filling goes through all arguments of a call, those included that its function does not look at.
This is the same as long as the function has only the outcomes of its arguments to go by, and does
not ask for the values bound in the branch itself. No built-in function does.

## Main definitions

* `Node.fill`, `Node.fillSequence` — a tree with the values of a branch filled in
* `Function.IgnoresBindings`, `Registry.IgnoresBindings` — functions do not ask for these values

## Main results

* `Node.eval_fill` — a node with the values filled in yields what the node yields in the branch
* `evaluate_fill` — branches are scripts with their list fields filled in
-/

namespace TitleScript

/-! ### Functions that do not look at the branch -/

/-- The values bound in the branch have no influence on what the function computes. -/
def Function.IgnoresBindings (f : Function) : Prop :=
  ∀ (ctx : Context) (bindings : Bindings), f.run { ctx with bindings := bindings } = f.run ctx

theorem Function.ignoresBindings_builtin (arity : Arity) (b : Builtin) :
    Function.IgnoresBindings ⟨arity, .builtin b⟩ := by
  intro ctx bindings
  cases b <;> rfl

/-- No function of the registry looks at the values bound in the branch. -/
def Registry.IgnoresBindings (r : Registry) : Prop :=
  ∀ (name : String) (f : Function), r.function? name = some f → f.IgnoresBindings

theorem Registry.OnlyBuiltins.ignoresBindings {r : Registry} (h : r.OnlyBuiltins) :
    r.IgnoresBindings :=
  h.of_forall_builtin Function.ignoresBindings_builtin

/-! ### Filling in -/

namespace Node

/-- A list field with its value filled in, if it is known and bound to text that is not empty. -/
def fillFieldList (registry : Registry) (bindings : Bindings) (p : Nat) (name : String) : Node :=
  match bindings.get? name with
  | some value =>
    if registry.resolvesField name ∧ value ≠ "" then quoted p value else fieldList p name
  | none => fieldList p name

mutual

/-- A node with the values of its list fields filled in, at every depth. -/
def fill (registry : Registry) (bindings : Bindings) : Node → Node
  | fieldList p name => fillFieldList registry bindings p name
  | call p name args => call p name (fillArgs registry bindings args)
  | group p content => group p (fillSequence registry bindings content)
  | node => node

/-- A sequence with the values of its list fields filled in. -/
def fillSequence (registry : Registry) (bindings : Bindings) : List Node → List Node
  | [] => []
  | node :: nodes => node.fill registry bindings :: fillSequence registry bindings nodes

/-- The arguments of a call with the values of their list fields filled in. -/
def fillArgs (registry : Registry) (bindings : Bindings) : List (List Node) → List (List Node)
  | [] => []
  | arg :: args => fillSequence registry bindings arg :: fillArgs registry bindings args

end

variable {registry : Registry} {bindings : Bindings}

theorem fillSequence_eq (nodes : List Node) :
    fillSequence registry bindings nodes = nodes.map (fill registry bindings) := by
  induction nodes with
  | nil => rfl
  | cons node nodes ih => rw [fillSequence, ih, List.map_cons]

theorem fillArgs_eq (args : List (List Node)) :
    fillArgs registry bindings args = args.map (fillSequence registry bindings) := by
  induction args with
  | nil => rfl
  | cons arg args ih => rw [fillArgs, ih, List.map_cons]

/-- A list field that is filled in, or left unbound, yields what it yields in the branch. -/
theorem eval_fillFieldList (ctx : Context) (p : Nat) (name : String) :
    (fillFieldList registry ctx.bindings p name).eval registry { ctx with bindings := .empty }
      = evalFieldList registry ctx name := by
  have hunbound : (fieldList p name).eval registry { ctx with bindings := .empty }
      = if registry.resolvesField name then .ofField "" else .unresolved :=
    evalFieldList_eq registry { ctx with bindings := .empty } name
  rw [fillFieldList, evalFieldList_eq, Context.boundText]
  cases ctx.bindings.get? name with
  | none => exact hunbound
  | some value =>
    rw [Option.getD_some]
    by_cases hfilled : registry.resolvesField name ∧ value ≠ ""
    · simp only [if_pos hfilled, if_pos hfilled.1, Outcome.ofField_of_ne hfilled.2]
      rfl
    · simp only [if_neg hfilled, hunbound]
      by_cases hknown : registry.resolvesField name
      · have hempty : value = "" := by simpa [hknown] using hfilled
        rw [hempty]
      · rw [if_neg hknown, if_neg hknown]

/-- **A node with the values of a branch filled in needs no branch.** -/
theorem eval_fill (h : registry.IgnoresBindings) (ctx : Context) (node : Node) :
    (node.fill registry ctx.bindings).eval registry { ctx with bindings := .empty }
      = node.eval registry ctx := by
  induction node using Node.induction with
  | literal p text | quoted p text | field p name => rfl
  | fieldList p name => exact eval_fillFieldList ctx p name
  | call p name args ih =>
    have hargs : (fillArgs registry ctx.bindings args).map
          (evalSequence registry { ctx with bindings := .empty })
        = args.map (evalSequence registry ctx) := by
      rw [fillArgs_eq]
      refine map_evalSequence_map fun arg harg => ?_
      rw [fillSequence_eq]
      exact evalSequence_map (ih arg harg)
    have hname : evalCall registry { ctx with bindings := .empty } name
        = evalCall registry ctx name :=
      evalCall_congr fun f hf => h name f hf ctx .empty
    rw [fill, eval_call, eval_call, hargs, hname]
  | group p content ih =>
    rw [fill, eval_group, eval_group, fillSequence_eq, evalSequence_map ih]

theorem evalSequence_fill (h : registry.IgnoresBindings) (ctx : Context) (nodes : List Node) :
    evalSequence registry { ctx with bindings := .empty }
        (fillSequence registry ctx.bindings nodes)
      = evalSequence registry ctx nodes := by
  rw [fillSequence_eq]
  exact evalSequence_map fun node _ => eval_fill h ctx node

end Node

/-- **A branch is the script with its list fields filled in**, where no function looks at the values
bound in the branch, as is the case for built-in functions. This is so for any bindings, and the
outcomes of a script are those of the scripts that its branches make of it. -/
theorem evaluate_fill (registry : Registry) :
    (registry.OnlyBuiltins → registry.IgnoresBindings)
      ∧ (registry.IgnoresBindings → ∀ (nodes : List Node) (record : Record) (settings : Settings),
        (∀ bindings : Bindings, Node.evalSequence registry ⟨record, bindings, settings⟩ nodes
          = Node.evalSequence registry ⟨record, .empty, settings⟩
              (Node.fillSequence registry bindings nodes))
        ∧ evaluate nodes registry record settings
          = ((FanOut.plan nodes registry record).branches settings.maxBranches).map fun bindings =>
              Node.evalSequence registry ⟨record, .empty, settings⟩
                (Node.fillSequence registry bindings nodes)) := by
  refine ⟨Registry.OnlyBuiltins.ignoresBindings, fun h nodes record settings => ?_⟩
  have hfill (bindings : Bindings) : Node.evalSequence registry ⟨record, bindings, settings⟩ nodes
      = Node.evalSequence registry ⟨record, .empty, settings⟩
          (Node.fillSequence registry bindings nodes) :=
    (Node.evalSequence_fill h ⟨record, bindings, settings⟩ nodes).symm
  exact ⟨hfill, List.map_congr_left fun bindings _ => hfill bindings⟩

/-- List fields in a group and in an argument that is not looked at, one of them bound to the empty
text. -/
theorem evaluate_fill_lazy :
    let nodes : List Node := [.group 0 [.fieldList 1 "A"],
      .call 7 "if" [[.fieldList 11 "a"], [.literal 17 "x"], [.group 19 [.fieldList 20 "b"]]],
      .fieldList 28 "b"]
    let bindings : Bindings := ⟨[("a", "1"), ("b", "")]⟩
    let record : Record := fun _ => .missing
    Registry.standard.IgnoresBindings
      ∧ Node.fillSequence .standard bindings nodes = [.group 0 [.quoted 1 "1"],
        .call 7 "if" [[.quoted 11 "1"], [.literal 17 "x"], [.group 19 [.fieldList 20 "b"]]],
        .fieldList 28 "b"]
      ∧ Node.evalSequence .standard ⟨record, bindings, {}⟩ nodes = ⟨"1x", true, true⟩ := by
  intro nodes bindings record
  obtain ⟨hbuiltins, hfill⟩ := evaluate_fill .standard
  have hignores := hbuiltins Registry.onlyBuiltins_standard
  have hbound : bindings.get? "A" = some "1" ∧ bindings.get? "a" = some "1"
      ∧ bindings.get? "b" = some "" := by decide +kernel
  have hfilled : Node.fillSequence .standard bindings nodes = [.group 0 [.quoted 1 "1"],
      .call 7 "if" [[.quoted 11 "1"], [.literal 17 "x"], [.group 19 [.fieldList 20 "b"]]],
      .fieldList 28 "b"] := by
    simp [nodes, Node.fillSequence, Node.fill, Node.fillArgs, Node.fillFieldList, hbound,
      Registry.resolvesField, Registry.standard]
  refine ⟨hignores, hfilled, ?_⟩
  rw [(hfill hignores nodes record {}).1 bindings, hfilled]
  decide +kernel

end TitleScript
