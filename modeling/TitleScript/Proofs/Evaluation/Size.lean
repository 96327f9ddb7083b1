import Mathlib.Algebra.GroupWithZero.Nat
import TitleScript.Proofs.Evaluation.Walk

/-!
# The size of what a script yields

What a script yields is at most as long as what it is made of: the text written in it, the text its
fields have, and a fixed amount for each call. Functions can multiply the text they are given, and
calls can be nested, so nothing better can be said about what is inside a call; but the text of
every call is cut, so nothing inside a call counts.

The bound is met where there are no calls and everything is present: each part then adds its whole
text. It is missed only by calls that do not use up what they are allowed and by groups that are not
shown.

## Main definitions

* `Node.outsideCalls`, `Node.outsideCallsOf` — the nodes of a tree, those inside calls left out
* `Node.room` — the number of bytes a node adds, what is inside it left out

## Main results

* `Node.utf8ByteSize_eval_call_le` — the bound for a single call
* `utf8ByteSize_evalSequence_le` — the bound for a script, and when it is met
-/

namespace TitleScript

namespace Node

mutual

/-- The node and all nodes inside it that are not inside a call. -/
def outsideCalls : Node → List Node
  | group p content => group p content :: outsideCallsOf content
  | node => [node]

/-- All nodes in a sequence that are not inside a call. -/
def outsideCallsOf : List Node → List Node
  | [] => []
  | node :: nodes => node.outsideCalls ++ outsideCallsOf nodes

end

/-- The number of bytes that a node may add, those of nodes inside it left out. -/
def room (r : Registry) (ctx : Context) : Node → Nat
  | literal _ text | quoted _ text => text.utf8ByteSize
  | field _ name => if r.resolvesField name then (ctx.fieldText name).utf8ByteSize else 0
  | fieldList _ name => if r.resolvesField name then (ctx.boundText name).utf8ByteSize else 0
  | call .. => maxResultBytes
  | group .. => 0

/-- The node is a call. -/
def isCall : Node → Bool
  | call .. => true
  | _ => false

variable {r : Registry} {ctx : Context}

theorem outsideCallsOf_eq (nodes : List Node) :
    outsideCallsOf nodes = nodes.flatMap outsideCalls := by
  induction nodes with
  | nil => rfl
  | cons node nodes ih => rw [outsideCallsOf, ih, List.flatMap_cons]

/-! ### One construct -/

theorem utf8ByteSize_eval_field (p : Nat) (name : String) :
    ((field p name).eval r ctx).text.utf8ByteSize = (field p name).room r ctx := by
  rw [eval, evalField_eq, room]
  cases r.resolvesField name <;> rfl

theorem utf8ByteSize_eval_fieldList (p : Nat) (name : String) :
    ((fieldList p name).eval r ctx).text.utf8ByteSize = (fieldList p name).room r ctx := by
  rw [eval, evalFieldList_eq, room]
  cases r.resolvesField name <;> rfl

/-- **A call yields a bounded text**, whatever is inside it. -/
theorem utf8ByteSize_eval_call_le (p : Nat) (name : String) (args : List (List Node)) :
    ((call p name args).eval r ctx).text.utf8ByteSize ≤ maxResultBytes := by
  by_cases hself : (call p name args).resolves r
  · obtain ⟨f, -, heval⟩ := eval_call_of_resolves ctx hself
    rw [heval]
    exact f.utf8ByteSize_apply_le ctx _
  · rw [eval_of_resolves_eq_false (Bool.eq_false_iff.2 hself)]
    exact Nat.zero_le _

theorem utf8ByteSize_evalGroup_le (content : Outcome) :
    (evalGroup content).text.utf8ByteSize ≤ content.text.utf8ByteSize := by
  cases h : content.isPresent with
  | true =>
    rw [evalGroup_of_isPresent h]
    exact Nat.le_refl _
  | false =>
    rw [evalGroup_of_not_isPresent h]
    exact Nat.zero_le _

/-! ### Trees -/

section Sequence

variable {nodes : List Node}

theorem sum_room_cons (node : Node) (nodes : List Node) :
    ((outsideCallsOf (node :: nodes)).map (room r ctx)).sum
      = (node.outsideCalls.map (room r ctx)).sum
        + ((outsideCallsOf nodes).map (room r ctx)).sum := by
  rw [outsideCallsOf, List.map_append, List.sum_append]

theorem utf8ByteSize_evalSequence_cons (node : Node) (nodes : List Node) :
    (evalSequence r ctx (node :: nodes)).text.utf8ByteSize
      = (node.eval r ctx).text.utf8ByteSize + (evalSequence r ctx nodes).text.utf8ByteSize := by
  rw [evalSequence_cons, Outcome.append, String.utf8ByteSize_append]

theorem utf8ByteSize_evalSequence_le_of (h : ∀ node ∈ nodes,
    (node.eval r ctx).text.utf8ByteSize ≤ (node.outsideCalls.map (room r ctx)).sum) :
    (evalSequence r ctx nodes).text.utf8ByteSize
      ≤ ((outsideCallsOf nodes).map (room r ctx)).sum := by
  induction nodes with
  | nil => exact Nat.le_refl 0
  | cons node nodes ih =>
    rw [List.forall_mem_cons] at h
    rw [sum_room_cons, utf8ByteSize_evalSequence_cons]
    exact Nat.add_le_add h.1 (ih h.2)

theorem utf8ByteSize_evalSequence_eq_of (h : ∀ node ∈ nodes,
    (node.eval r ctx).text.utf8ByteSize = (node.outsideCalls.map (room r ctx)).sum) :
    (evalSequence r ctx nodes).text.utf8ByteSize
      = ((outsideCallsOf nodes).map (room r ctx)).sum := by
  induction nodes with
  | nil => rfl
  | cons node nodes ih =>
    rw [List.forall_mem_cons] at h
    rw [sum_room_cons, utf8ByteSize_evalSequence_cons, h.1, ih h.2]

end Sequence

theorem utf8ByteSize_eval_le (node : Node) :
    (node.eval r ctx).text.utf8ByteSize ≤ (node.outsideCalls.map (room r ctx)).sum := by
  induction node using Node.induction with
  | literal p text | quoted p text => exact Nat.le_refl _
  | field p name => exact Nat.le_of_eq (utf8ByteSize_eval_field p name)
  | fieldList p name => exact Nat.le_of_eq (utf8ByteSize_eval_fieldList p name)
  | call p name args ih => exact utf8ByteSize_eval_call_le p name args
  | group p content ih =>
    have hcontent := utf8ByteSize_evalSequence_le_of ih
    calc ((group p content).eval r ctx).text.utf8ByteSize
        ≤ (evalSequence r ctx content).text.utf8ByteSize := by
          rw [eval_group]
          exact utf8ByteSize_evalGroup_le _
      _ ≤ ((outsideCallsOf content).map (room r ctx)).sum := hcontent
      _ = ((group p content).outsideCalls.map (room r ctx)).sum := by
          rw [outsideCalls, List.map_cons, List.sum_cons, room, Nat.zero_add]

/-- Without calls, what is present adds all of its text. -/
theorem utf8ByteSize_eval_eq (node : Node) (hcalls : ∀ inner ∈ node.outsideCalls, ¬ inner.isCall)
    (hpresent : (node.eval r ctx).isPresent) :
    (node.eval r ctx).text.utf8ByteSize = (node.outsideCalls.map (room r ctx)).sum := by
  induction node using Node.induction with
  | literal p text | quoted p text => rfl
  | field p name => exact utf8ByteSize_eval_field p name
  | fieldList p name => exact utf8ByteSize_eval_fieldList p name
  | call p name args ih => exact absurd rfl (hcalls _ List.mem_cons_self)
  | group p content ih =>
    rw [outsideCalls, List.forall_mem_cons, outsideCallsOf_eq, List.forall_mem_flatMap] at hcalls
    rw [eval_group, isPresent_evalGroup] at hpresent
    have hnodes := isPresent_evalSequence.1 hpresent
    have hcontent := utf8ByteSize_evalSequence_eq_of fun node hnode =>
      ih node hnode (hcalls.2 node hnode) (hnodes node hnode)
    rw [eval_group, evalGroup_of_isPresent hpresent, outsideCalls, List.map_cons, List.sum_cons,
      room, Nat.zero_add, ← hcontent]
    rfl

end Node

/-- **What a script yields is bounded by what it is made of**: the text written in it, the text of
its fields, and a fixed number of bytes for each call that is not inside another one. The bound is
met where there is no call and everything is present. Every single call keeps to its own bound,
however deeply calls are nested in its arguments. -/
theorem utf8ByteSize_evalSequence_le (r : Registry) (ctx : Context) (nodes : List Node) :
    (Node.evalSequence r ctx nodes).text.utf8ByteSize
        ≤ ((Node.outsideCallsOf nodes).map (Node.room r ctx)).sum
      ∧ ((∀ node ∈ Node.outsideCallsOf nodes, ¬ node.isCall) →
        (Node.evalSequence r ctx nodes).isPresent →
          (Node.evalSequence r ctx nodes).text.utf8ByteSize
            = ((Node.outsideCallsOf nodes).map (Node.room r ctx)).sum)
      ∧ ∀ (p : Nat) (name : String) (args : List (List Node)),
        ((Node.call p name args).eval r ctx).text.utf8ByteSize ≤ 65536 := by
  refine ⟨Node.utf8ByteSize_evalSequence_le_of fun node _ => node.utf8ByteSize_eval_le, ?_,
    Node.utf8ByteSize_eval_call_le⟩
  intro hcalls hpresent
  rw [Node.outsideCallsOf_eq, List.forall_mem_flatMap] at hcalls
  have hnodes := Node.isPresent_evalSequence.1 hpresent
  exact Node.utf8ByteSize_evalSequence_eq_of fun node hnode =>
    node.utf8ByteSize_eval_eq (hcalls node hnode) (hnodes node hnode)

/-- Text and a shown group add all of their text, and a function of the host is cut to the bound. -/
theorem utf8ByteSize_evalSequence_le_host :
    let long : Function :=
      ⟨.atLeast 0, .custom .eager fun _ _ => .literal (String.ofList (List.replicate 100000 'x'))⟩
    let r : Registry := ⟨∅, .ofList [("long", long)], true⟩
    let ctx : Context := ⟨fun _ => .multi ["1", "2"], .empty, {}⟩
    let nodes : List Node := [.literal 0 "é", .group 2 [.field 3 "a"]]
    (∀ node ∈ Node.outsideCallsOf nodes, ¬ node.isCall)
      ∧ (Node.evalSequence r ctx nodes).isPresent
      ∧ (Node.evalSequence r ctx nodes).text.utf8ByteSize = 6
      ∧ ((Node.call 7 "long" [[.call 13 "long" []]]).eval r ctx).text.utf8ByteSize ≤ 65536 := by
  intro long r ctx nodes
  have hcalls : ∀ node ∈ Node.outsideCallsOf nodes, ¬ node.isCall := by decide
  have hpresent : (Node.evalSequence r ctx nodes).isPresent := by decide +kernel
  obtain ⟨-, hmet, hcall⟩ := utf8ByteSize_evalSequence_le r ctx nodes
  have hroom : ((Node.outsideCallsOf nodes).map (Node.room r ctx)).sum = 6 := by decide +kernel
  exact ⟨hcalls, hpresent, (hmet hcalls hpresent).trans hroom, hcall 7 "long" _⟩

end TitleScript
