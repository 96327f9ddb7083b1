import Mathlib.Data.List.Nodup
import TitleScript.Proofs.Evaluation.Walk
import TitleScript.Proofs.Script.Position

/-!
# Groups that are always shown

A warning says of a group that it is always shown. It goes by the nodes inside: if all of them, at
any depth, are text or groups, then nothing in the group can fail or be empty, and what it yields is
its text, whatever the record and the branch.

Brackets that never hide anything can be left out. A script in which the content of such a group
stands in the place of the group yields the same in every branch, and it has the same branches,
since there is no list field in the group.

Warnings name a group by its position only. In the tree of a source no two nodes have the same
position, so that says which group is meant.

## Main definitions

* `Node.staticText` — the text of the literal nodes in a sequence, at any depth
* `Node.dissolve`, `Node.dissolveOf` — the group at a position replaced by its content

## Main results

* `Node.eval_of_isDynamic_eq_false` — a node that is not dynamic yields its text
* `Node.evalSequence_dissolveOf`, `Node.listFieldsOf_dissolveOf` — leaving out the brackets
* `always_shown_groups` — what a warning about a group says about every branch
-/

namespace TitleScript

namespace Node

variable {registry : Registry} {ctx : Context}

/-! ### What is not dynamic -/

theorem anyDynamic_eq_false_iff {nodes : List Node} :
    anyDynamic nodes = false ↔ ∀ node ∈ nodes, node.isDynamic = false := by
  induction nodes with
  | nil => simp [anyDynamic]
  | cons node nodes ih => rw [anyDynamic, Bool.or_eq_false_iff, ih, List.forall_mem_cons]

/-- The text of the literal nodes in a node, at any depth and in source order. -/
def staticText (node : Node) : String := String.join (node.preorder.filterMap literalText?)

/-- The text of the literal nodes in a sequence, at any depth and in source order. -/
def staticTextOf (nodes : List Node) : String :=
  String.join ((preorderOf nodes).filterMap literalText?)

theorem staticTextOf_cons (node : Node) (nodes : List Node) :
    staticTextOf (node :: nodes) = node.staticText ++ staticTextOf nodes := by
  rw [staticTextOf, preorderOf_cons, List.filterMap_append, String.join_append]
  rfl

/-- A sequence yields its text if each of its nodes does. -/
theorem evalSequence_of_forall_staticText {nodes : List Node}
    (h : ∀ node ∈ nodes, node.eval registry ctx = .literal node.staticText) :
    evalSequence registry ctx nodes = .literal (staticTextOf nodes) := by
  induction nodes with
  | nil => rfl
  | cons node nodes ih =>
    rw [List.forall_mem_cons] at h
    rw [evalSequence_cons, h.1, ih h.2, staticTextOf_cons]
    rfl

/-- **What is not dynamic yields its text**, in every context. -/
theorem eval_of_isDynamic_eq_false {node : Node} (h : node.isDynamic = false) :
    node.eval registry ctx = .literal node.staticText := by
  induction node using Node.induction with
  | literal p text | quoted p text => exact congrArg Outcome.literal (String.empty_append).symm
  | field p name | fieldList p name | call p name args _ => contradiction
  | group p content ih =>
    have hcontent := evalSequence_of_forall_staticText fun node hnode =>
      ih node hnode (anyDynamic_eq_false_iff.1 h node hnode)
    rw [eval_group, hcontent]
    rfl

theorem evalSequence_of_anyDynamic_eq_false {nodes : List Node} (h : anyDynamic nodes = false) :
    evalSequence registry ctx nodes = .literal (staticTextOf nodes) :=
  evalSequence_of_forall_staticText fun node hnode =>
    eval_of_isDynamic_eq_false (anyDynamic_eq_false_iff.1 h node hnode)

/-! ### Leaving out the brackets -/

mutual

/-- The node, or what is inside its brackets if it is the group at the position. -/
def dissolve (position : Nat) : Node → List Node
  | group p content => if p = position then content else [group p (dissolveOf position content)]
  | call p name args => [call p name (dissolveEach position args)]
  | node => [node]

/-- The sequence with the content of the group at the position in the place of the group, wherever
in the sequence it is. -/
def dissolveOf (position : Nat) : List Node → List Node
  | [] => []
  | node :: nodes => node.dissolve position ++ dissolveOf position nodes

/-- The arguments with the content of the group at the position in the place of the group. -/
def dissolveEach (position : Nat) : List (List Node) → List (List Node)
  | [] => []
  | arg :: args => dissolveOf position arg :: dissolveEach position args

end

theorem dissolveOf_eq (position : Nat) (nodes : List Node) :
    dissolveOf position nodes = nodes.flatMap (dissolve position) := by
  induction nodes with
  | nil => rfl
  | cons node nodes ih => rw [dissolveOf, ih, List.flatMap_cons]

theorem dissolveEach_eq (position : Nat) (args : List (List Node)) :
    dissolveEach position args = args.map (dissolveOf position) := by
  induction args with
  | nil => rfl
  | cons arg args ih => rw [dissolveEach, ih, List.map_cons]

/-- All groups at the position are without dynamic nodes. -/
def StaticAt (position : Nat) : Node → Prop
  | group p content => p = position → anyDynamic content = false
  | _ => True

theorem evalSequence_dissolve {position : Nat} (node : Node)
    (h : ∀ inner ∈ node.preorder, inner.StaticAt position) :
    evalSequence registry ctx (node.dissolve position) = node.eval registry ctx := by
  induction node using Node.induction with
  | literal p text | quoted p text | field p name | fieldList p name =>
    exact evalSequence_singleton _
  | call p name args ih =>
    rw [forall_mem_preorder_call] at h
    have hargs : (dissolveEach position args).map (evalSequence registry ctx)
        = args.map (evalSequence registry ctx) := by
      rw [dissolveEach_eq]
      refine map_evalSequence_map fun arg harg => ?_
      rw [dissolveOf_eq]
      exact evalSequence_flatMap fun node hnode => ih arg harg node hnode (h.2 arg harg node hnode)
    rw [dissolve, evalSequence_singleton, eval_call, hargs, eval_call]
  | group p content ih =>
    rw [forall_mem_preorder_group] at h
    rw [dissolve]
    split
    next hposition =>
      have hstatic : anyDynamic content = false := h.1 hposition
      rw [eval_group, evalSequence_of_anyDynamic_eq_false hstatic]
      rfl
    next =>
      have hcontent : evalSequence registry ctx (dissolveOf position content)
          = evalSequence registry ctx content := by
        rw [dissolveOf_eq]
        exact evalSequence_flatMap fun node hnode => ih node hnode (h.2 node hnode)
      rw [evalSequence_singleton, eval_group, hcontent, eval_group]

/-- **Brackets that hide nothing make no difference** to what a sequence yields. -/
theorem evalSequence_dissolveOf {position : Nat} {nodes : List Node}
    (h : ∀ node ∈ preorderOf nodes, node.StaticAt position) :
    evalSequence registry ctx (dissolveOf position nodes) = evalSequence registry ctx nodes := by
  rw [forall_mem_preorderOf] at h
  rw [dissolveOf_eq]
  exact evalSequence_flatMap fun node hnode => evalSequence_dissolve node (h node hnode)

mutual

theorem listFieldsOf_dissolve (position : Nat) : ∀ node : Node,
    listFieldsOf (node.dissolve position) = node.listFields
  | literal _ _ | quoted _ _ | field _ _ | fieldList _ _ => rfl
  | call _ _ args => by
    rw [dissolve, listFieldsOf, listFields, listFieldsOfArgs_dissolveEach position args]
    exact List.append_nil _
  | group p content => by
    rw [dissolve]
    split
    · rfl
    · rw [listFieldsOf, listFields, listFieldsOf_dissolveOf position content]
      exact List.append_nil _

/-- Brackets make no difference to the list fields of a sequence. -/
theorem listFieldsOf_dissolveOf (position : Nat) : ∀ nodes : List Node,
    listFieldsOf (dissolveOf position nodes) = listFieldsOf nodes
  | [] => rfl
  | node :: nodes => by
    rw [dissolveOf, listFieldsOf_append, listFieldsOf_dissolve position node,
      listFieldsOf_dissolveOf position nodes, listFieldsOf]

theorem listFieldsOfArgs_dissolveEach (position : Nat) : ∀ args : List (List Node),
    listFieldsOfArgs (dissolveEach position args) = listFieldsOfArgs args
  | [] => rfl
  | arg :: args => by
    rw [dissolveEach, listFieldsOfArgs, listFieldsOf_dissolveOf position arg,
      listFieldsOfArgs_dissolveEach position args, listFieldsOfArgs]

end

/-! ### Groups that are warned about -/

/-- That a group is always shown is only said of groups without dynamic nodes. -/
theorem eq_group_of_alwaysShown {r : Registry} {node : Node} {position : Nat}
    (h : .alwaysShown position ∈ node.ownWarnings r) :
    ∃ content, node = group position content ∧ anyDynamic content = false := by
  obtain rfl := position_of_mem_ownWarnings h
  cases node with
  | literal p text | quoted p text => cases h
  | field p name =>
    rw [ownWarnings, Registry.fieldWarnings] at h
    split at h <;> simp at h
  | fieldList p name =>
    rw [ownWarnings, Registry.fieldListWarnings, Registry.fieldWarnings] at h
    split at h
    · simp at h
    · split at h <;> simp at h
  | call p name args =>
    rw [ownWarnings, Registry.callWarnings] at h
    split at h
    · simp at h
    · split at h <;> simp at h
  | group p content =>
    rw [ownWarnings, groupWarnings] at h
    split at h
    · cases h
    · next hstatic => exact ⟨content, rfl, Bool.eq_false_iff.2 hstatic⟩

end Node

/-- A warning about a group is about every group at its position, since there is only one. -/
theorem Script.staticAt_of_alwaysShown {s : Script} {r : Registry} {position : Nat}
    (hpositions : (Node.preorderOf s.nodes).Pairwise fun a b => a.position < b.position)
    (h : .alwaysShown position ∈ s.warnings r) :
    ∀ node ∈ Node.preorderOf s.nodes, node.StaticAt position := by
  obtain ⟨warned, hwarned, hown⟩ := mem_warnings.1 h
  obtain ⟨content, rfl, hstatic⟩ := Node.eq_group_of_alwaysShown hown
  have hdistinct : ((Node.preorderOf s.nodes).map Node.position).Nodup :=
    List.pairwise_map.2 (hpositions.imp Nat.ne_of_lt)
  intro node hnode
  cases node with
  | group p content' =>
    intro hposition
    have heq := List.inj_on_of_nodup_map hdistinct hnode hwarned hposition
    obtain ⟨-, rfl⟩ := Node.group.inj heq
    exact hstatic
  | _ => trivial

/-- **A group that is said to be always shown is always shown.** In every context it yields the
literal text inside it, with flags that say nothing. And with its content in its place, the script
yields the same in every branch. -/
theorem always_shown_groups (source : String) (r : Registry) {position : Nat} {content : List Node}
    (hgroup : .group position content ∈ Node.preorderOf (Script.parse source).nodes)
    (hwarning : .alwaysShown position ∈ (Script.parse source).warnings r) :
    (∀ ctx : Context,
      (Node.group position content).eval r ctx = .literal (Node.staticTextOf content))
      ∧ ∀ (record : Record) (settings : Settings),
        evaluate (Node.dissolveOf position (Script.parse source).nodes) r record settings
          = evaluate (Script.parse source).nodes r record settings := by
  have hmarked := marked_nodes_parse source
  have hpositions := List.pairwise_map.1 hmarked.increasing
  have hstatic := Script.staticAt_of_alwaysShown hpositions hwarning
  constructor
  · intro ctx
    have hcontent : Node.anyDynamic content = false := hstatic _ hgroup rfl
    exact Node.eval_of_isDynamic_eq_false hcontent
  · intro record settings
    have hplan : FanOut.plan (Node.dissolveOf position (Script.parse source).nodes) r record
        = FanOut.plan (Script.parse source).nodes r record := by
      rw [FanOut.plan, FanOut.fieldNames, Node.listFieldsOf_dissolveOf]
      rfl
    rw [evaluate, evaluate, hplan]
    exact List.map_congr_left fun bindings _ => Node.evalSequence_dissolveOf hstatic

/-- A group inside a group behind a letter of two bytes, and a list field with two values. -/
theorem always_shown_groups_nested :
    let r : Registry := ⟨.ofList [("n", FieldKind.multi)], Registry.builtins, false⟩
    let record : Record := fun _ => .multi ["x", "y"]
    let content : List Node := [.literal 3 "a", .group 4 [.literal 5 "b"]]
    let nodes : List Node := [.literal 0 "é", .group 2 content, .fieldList 8 "n"]
    (Script.parse "é[a[b]]%<n>%").nodes = nodes
      ∧ .alwaysShown 2 ∈ (Script.parse "é[a[b]]%<n>%").warnings r
      ∧ (Node.group 2 content).eval r ⟨record, ⟨[]⟩, {}⟩ = .literal "ab"
      ∧ evaluate (.literal 0 "é" :: content ++ [.fieldList 8 "n"]) r record {}
        = evaluate nodes r record {} := by
  intro r record content nodes
  have hname : isFieldName ['n'] = true := by decide +kernel
  have hchars : (['<', 'n', '>', '%'].map isFieldChar) = [true, true, true, false] := by decide
  have hscan : Token.scan "é[a[b]]%<n>%".toList
      = [(0, .plain 'é'), (2, .groupStart), (3, .plain 'a'), (4, .groupStart), (5, .plain 'b'),
        (6, .groupEnd), (7, .groupEnd), (8, .fieldList ['n'])] := by
    simp only [List.map_cons, List.map_nil, List.cons.injEq, and_true] at hchars
    simp [Token.scan_eq, Token.tokens_cons, Token.read, Token.readField, Token.ofFieldText,
      Token.insideAngles?, hname, hchars, Token.withPositions, Token.spelling]
    decide
  have hnodes : (Script.parse "é[a[b]]%<n>%").nodes = nodes := by
    rw [Script.nodes_parse, hscan]
    rfl
  have hgroup : .group 2 content ∈ Node.preorderOf (Script.parse "é[a[b]]%<n>%").nodes := by
    rw [hnodes]
    exact .tail _ (.head _)
  have hwarning : .alwaysShown 2 ∈ (Script.parse "é[a[b]]%<n>%").warnings r :=
    Script.mem_warnings.2 ⟨_, hgroup, .head _⟩
  obtain ⟨heval, hdissolve⟩ := always_shown_groups "é[a[b]]%<n>%" r hgroup hwarning
  have hbranches := hdissolve record {}
  rw [hnodes] at hbranches
  exact ⟨hnodes, hwarning, heval _, hbranches⟩

end TitleScript
