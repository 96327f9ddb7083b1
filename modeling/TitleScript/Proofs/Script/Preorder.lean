import TitleScript.FanOut
import TitleScript.Lint

/-!
# Trees listed in source order

The source of a node begins before the sources of the nodes inside it, and those come in order. So
a tree is listed in source order when each node stands before what is inside it.

Every walk that looks at one node at a time can be read off this list, whatever it collects. The
list fields of a fan-out and the warnings about a script are collected in such walks, and a
statement about all nodes of a tree, at any depth, is a statement about the members of the list.

## Main definitions

* `Node.preorder`, `Node.preorderOf` — the nodes in a node and in a sequence, in source order
* `Node.listName?` — the name of a list field
* `Node.ownWarnings` — the warnings about a node, those about nodes inside it left out

## Main results

* `Node.induction` — induction over trees, with the hypothesis for every node right inside
* `Node.forall_mem_preorder_call`, `Node.forall_mem_preorder_group`, `Node.mem_preorder_trans` —
  what is inside a node
* `Node.listFieldsOf_eq` — the list fields of a sequence, read off the list
* `Node.warningsOf_eq` — the warnings about a sequence, read off the list
* `Node.ownWarnings_cases` — at most one warning is about a node
-/

namespace TitleScript

namespace Node

mutual

/-- The node and all nodes inside it, in source order. -/
def preorder : Node → List Node
  | call p name args => call p name args :: preorderOfArgs args
  | group p content => group p content :: preorderOf content
  | node => [node]

/-- All nodes in a sequence, in source order. -/
def preorderOf : List Node → List Node
  | [] => []
  | node :: nodes => node.preorder ++ preorderOf nodes

/-- All nodes in the arguments of a call, in source order. -/
def preorderOfArgs : List (List Node) → List Node
  | [] => []
  | arg :: args => preorderOf arg ++ preorderOfArgs args

end

@[simp] theorem preorderOf_nil : preorderOf [] = [] := rfl

theorem preorderOf_cons (node : Node) (nodes : List Node) :
    preorderOf (node :: nodes) = node.preorder ++ preorderOf nodes := rfl

@[simp] theorem preorderOf_singleton (node : Node) : preorderOf [node] = node.preorder := by
  rw [preorderOf_cons, preorderOf_nil, List.append_nil]

@[simp] theorem preorderOf_append (nodes more : List Node) :
    preorderOf (nodes ++ more) = preorderOf nodes ++ preorderOf more := by
  induction nodes with
  | nil => rfl
  | cons node nodes ih => rw [List.cons_append, preorderOf_cons, ih, preorderOf_cons,
      List.append_assoc]

theorem preorderOf_eq (nodes : List Node) : preorderOf nodes = nodes.flatMap preorder := by
  induction nodes with
  | nil => rfl
  | cons node nodes ih => rw [preorderOf_cons, ih, List.flatMap_cons]

theorem preorderOfArgs_eq (args : List (List Node)) :
    preorderOfArgs args = args.flatMap preorderOf := by
  induction args with
  | nil => rfl
  | cons arg args ih => rw [preorderOfArgs, ih, List.flatMap_cons]

/-- Induction over trees. A call has the hypothesis for the nodes of all of its arguments, and a
group has it for those of its content. -/
@[elab_as_elim]
theorem induction {motive : Node → Prop} (literal : ∀ p text, motive (.literal p text))
    (quoted : ∀ p text, motive (.quoted p text)) (field : ∀ p name, motive (.field p name))
    (fieldList : ∀ p name, motive (.fieldList p name))
    (call : ∀ p name args, (∀ arg ∈ args, ∀ node ∈ arg, motive node) → motive (.call p name args))
    (group : ∀ p content, (∀ node ∈ content, motive node) → motive (.group p content))
    (node : Node) : motive node :=
  @Node.rec motive (fun args => ∀ arg ∈ args, ∀ node ∈ arg, motive node)
    (fun nodes => ∀ node ∈ nodes, motive node) literal quoted field fieldList call group
    (List.forall_mem_nil _) (fun _ _ harg hargs => List.forall_mem_cons.2 ⟨harg, hargs⟩)
    (List.forall_mem_nil _) (fun _ _ hnode hnodes => List.forall_mem_cons.2 ⟨hnode, hnodes⟩) node

theorem self_mem_preorder (node : Node) : node ∈ node.preorder := by
  cases node <;> exact List.mem_cons_self

section Members

variable {P : Node → Prop}

theorem forall_mem_preorderOf {nodes : List Node} :
    (∀ inner ∈ preorderOf nodes, P inner) ↔ ∀ node ∈ nodes, ∀ inner ∈ node.preorder, P inner := by
  rw [preorderOf_eq, List.forall_mem_flatMap]

/-- What holds of all nodes in a call holds of the call and of all nodes in its arguments. -/
theorem forall_mem_preorder_call {p : Nat} {name : String} {args : List (List Node)} :
    (∀ inner ∈ (call p name args).preorder, P inner)
      ↔ P (call p name args) ∧ ∀ arg ∈ args, ∀ node ∈ arg, ∀ inner ∈ node.preorder, P inner := by
  rw [preorder, List.forall_mem_cons, preorderOfArgs_eq, List.forall_mem_flatMap]
  exact and_congr_right fun _ => forall₂_congr fun arg _ => forall_mem_preorderOf

/-- What holds of all nodes in a group holds of the group and of all nodes in its content. -/
theorem forall_mem_preorder_group {p : Nat} {content : List Node} :
    (∀ inner ∈ (group p content).preorder, P inner)
      ↔ P (group p content) ∧ ∀ node ∈ content, ∀ inner ∈ node.preorder, P inner := by
  rw [preorder, List.forall_mem_cons, forall_mem_preorderOf]

end Members

/-- What is inside a node that is inside another one is inside that one. -/
theorem mem_preorder_trans {outer inner node : Node} (hinner : inner ∈ outer.preorder)
    (hnode : node ∈ inner.preorder) : node ∈ outer.preorder := by
  revert hinner hnode
  suffices h : ∀ inner ∈ outer.preorder, ∀ node ∈ inner.preorder, node ∈ outer.preorder from
    fun hinner hnode => h inner hinner node hnode
  induction outer using induction with
  | literal p text | quoted p text | field p name | fieldList p name =>
    exact List.forall_mem_singleton.2 fun node hnode => hnode
  | call p name args ih =>
    obtain ⟨-, hparts⟩ := forall_mem_preorder_call.1
      fun node (hnode : node ∈ (call p name args).preorder) => hnode
    refine forall_mem_preorder_call.2 ⟨fun node hnode => hnode, ?_⟩
    intro arg harg child hchild inner hinner node hnode
    exact hparts arg harg child hchild node (ih arg harg child hchild inner hinner node hnode)
  | group p content ih =>
    obtain ⟨-, hparts⟩ := forall_mem_preorder_group.1
      fun node (hnode : node ∈ (group p content).preorder) => hnode
    refine forall_mem_preorder_group.2 ⟨fun node hnode => hnode, ?_⟩
    intro child hchild inner hinner node hnode
    exact hparts child hchild node (ih child hchild inner hinner node hnode)

theorem mem_preorderOf_trans {nodes : List Node} {inner node : Node}
    (hinner : inner ∈ preorderOf nodes) (hnode : node ∈ inner.preorder) :
    node ∈ preorderOf nodes := by
  rw [preorderOf_eq, List.mem_flatMap] at hinner ⊢
  obtain ⟨outer, houter, hinner⟩ := hinner
  exact ⟨outer, houter, mem_preorder_trans hinner hnode⟩

/-! ### List fields -/

/-- The name of a list field, as written. -/
def listName? : Node → Option String
  | fieldList _ name => some name
  | _ => none

mutual

theorem listFields_eq : ∀ node : Node, node.listFields = node.preorder.filterMap listName?
  | literal _ _ | quoted _ _ | field _ _ | fieldList _ _ => rfl
  | call _ _ args => listFieldsOfArgs_eq args
  | group _ content => listFieldsOf_eq content

/-- The names of the list fields are found by going through all nodes in source order. -/
theorem listFieldsOf_eq : ∀ nodes : List Node,
    listFieldsOf nodes = (preorderOf nodes).filterMap listName?
  | [] => rfl
  | node :: nodes => by
    rw [listFieldsOf, listFields_eq node, listFieldsOf_eq nodes, preorderOf_cons,
      List.filterMap_append]

theorem listFieldsOfArgs_eq : ∀ args : List (List Node),
    listFieldsOfArgs args = (preorderOfArgs args).filterMap listName?
  | [] => rfl
  | arg :: args => by
    rw [listFieldsOfArgs, listFieldsOf_eq arg, listFieldsOfArgs_eq args, preorderOfArgs,
      List.filterMap_append]

end

theorem listFieldsOf_append (nodes more : List Node) :
    listFieldsOf (nodes ++ more) = listFieldsOf nodes ++ listFieldsOf more := by
  rw [listFieldsOf_eq, preorderOf_append, List.filterMap_append, listFieldsOf_eq, listFieldsOf_eq]

/-! ### Warnings -/

/-- The warnings about the node itself, those about nodes inside it left out. -/
def ownWarnings (r : Registry) : Node → List Warning
  | literal _ _ | quoted _ _ => []
  | field p name => r.fieldWarnings p name
  | fieldList p name => r.fieldListWarnings p name
  | call p name args => r.callWarnings p name args.length
  | group p content => groupWarnings p content

mutual

theorem warnings_eq (r : Registry) : ∀ node : Node,
    node.warnings r = node.preorder.flatMap (ownWarnings r)
  | literal _ _ | quoted _ _ => rfl
  | field _ _ | fieldList _ _ => (List.append_nil _).symm
  | call _ _ args => by
    rw [warnings, warningsOfArgs_eq r args, preorder, List.flatMap_cons, ownWarnings]
  | group _ content => by
    rw [warnings, warningsOf_eq r content, preorder, List.flatMap_cons, ownWarnings]

/-- The warnings are found by going through all nodes in source order. -/
theorem warningsOf_eq (r : Registry) : ∀ nodes : List Node,
    warningsOf r nodes = (preorderOf nodes).flatMap (ownWarnings r)
  | [] => rfl
  | node :: nodes => by
    rw [warningsOf, warnings_eq r node, warningsOf_eq r nodes, preorderOf_cons,
      List.flatMap_append]

theorem warningsOfArgs_eq (r : Registry) : ∀ args : List (List Node),
    warningsOfArgs r args = (preorderOfArgs args).flatMap (ownWarnings r)
  | [] => rfl
  | arg :: args => by
    rw [warningsOfArgs, warningsOf_eq r arg, warningsOfArgs_eq r args, preorderOfArgs,
      List.flatMap_append]

end

variable {r : Registry} {node : Node}

/-- No node is warned about twice: the rules that look at one node exclude each other. -/
theorem ownWarnings_cases (r : Registry) (node : Node) :
    node.ownWarnings r = []
      ∨ ∃ w : Warning, node.ownWarnings r = [w] ∧ w.position = node.position := by
  have hfield (p : Nat) (name : String) : r.fieldWarnings p name = []
      ∨ ∃ w : Warning, r.fieldWarnings p name = [w] ∧ w.position = p := by
    rw [Registry.fieldWarnings]
    split
    · exact .inl rfl
    · exact .inr ⟨_, rfl, rfl⟩
  cases node with
  | literal p t | quoted p t => exact .inl rfl
  | field p name => exact hfield p name
  | fieldList p name =>
    rw [ownWarnings, Registry.fieldListWarnings]
    split
    · exact .inr ⟨_, rfl, rfl⟩
    · exact hfield p name
  | call p name args =>
    rw [ownWarnings, Registry.callWarnings]
    split
    · exact .inr ⟨_, rfl, rfl⟩
    · split
      · exact .inl rfl
      · exact .inr ⟨_, rfl, rfl⟩
  | group p content =>
    rw [ownWarnings, groupWarnings]
    split
    · exact .inl rfl
    · exact .inr ⟨_, rfl, rfl⟩

theorem position_of_mem_ownWarnings {w : Warning} (h : w ∈ node.ownWarnings r) :
    w.position = node.position := by
  obtain hnone | ⟨w', hone, hposition⟩ := ownWarnings_cases r node
  · rw [hnone] at h
    exact absurd h List.not_mem_nil
  · rw [hone, List.mem_singleton] at h
    rw [h, hposition]

theorem pairwise_ownWarnings (R : Warning → Warning → Prop) : (node.ownWarnings r).Pairwise R := by
  obtain hnone | ⟨w, hone, -⟩ := ownWarnings_cases r node
  · rw [hnone]
    exact .nil
  · rw [hone]
    exact List.pairwise_singleton R w

/-- Where nodes come in the order of their positions, the warnings do so, too. -/
theorem pairwise_warningsOf {nodes : List Node}
    (h : (preorderOf nodes).Pairwise fun a b => a.position < b.position) (r : Registry) :
    (warningsOf r nodes).Pairwise fun v w => v.position < w.position := by
  rw [warningsOf_eq, List.pairwise_flatMap]
  refine ⟨fun node _ => pairwise_ownWarnings _, h.imp ?_⟩
  intro a b hlt v hv w hw
  rwa [position_of_mem_ownWarnings hv, position_of_mem_ownWarnings hw]

end Node

namespace Script

/-- Sorting the warnings about a script neither adds nor drops one. -/
theorem mem_warnings {s : Script} {r : Registry} {w : Warning} :
    w ∈ s.warnings r ↔ ∃ node ∈ Node.preorderOf s.nodes, w ∈ node.ownWarnings r := by
  rw [warnings, List.mem_mergeSort, Node.warningsOf_eq, List.mem_flatMap]

theorem pairwise_warnings {s : Script}
    (h : (Node.preorderOf s.nodes).Pairwise fun a b => a.position < b.position) (r : Registry) :
    (s.warnings r).Pairwise fun v w => v.position < w.position := by
  have hlt := Node.pairwise_warningsOf h r
  -- they come out of the walk in order, so sorting leaves them as they are
  have hsort : s.warnings r = Node.warningsOf r s.nodes :=
    List.mergeSort_of_pairwise (hlt.imp fun h => decide_eq_true (Nat.le_of_lt h))
  rwa [hsort]

end Script

end TitleScript
