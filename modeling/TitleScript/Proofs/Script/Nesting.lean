import Mathlib.Data.Nat.Basic
import Mathlib.Order.Basic
import TitleScript.Proofs.Script.Relocation
import TitleScript.Proofs.Script.Step

/-!
# How deep a tree nests

While a source is being read, nothing limits how deep its tree will nest but the number of frames
that are open at once. Once it is read, only the tree is left. The two say the same where everything
was closed: each frame has become a call or a group around what was read inside it.

The nesting of a tree under assembly is that of the tree if all frames were closed as they are. No
step makes it smaller, so the frames open at any time are at most as many as the finished tree nests
deep.

## Main definitions

* `Node.nesting`, `Node.nestingOf` — how deep calls and groups nest in a node and in a sequence
* `Assembly.nesting` — the same for a tree under assembly

## Main results

* `Assembly.nesting_le_of_effect` — no step makes the nesting smaller
* `Assembly.length_frames_le_nesting` — open frames count as levels
-/

namespace TitleScript

/-! ### Trees -/

namespace Node

mutual

/-- How deep calls and groups nest in the node. -/
def nesting : Node → Nat
  | literal _ _ | quoted _ _ | field _ _ | fieldList _ _ => 0
  | call _ _ args => nestingOfArgs args + 1
  | group _ content => nestingOf content + 1

/-- How deep calls and groups nest in the sequence. -/
def nestingOf : List Node → Nat
  | [] => 0
  | node :: nodes => max node.nesting (nestingOf nodes)

/-- How deep calls and groups nest in the arguments of a call. -/
def nestingOfArgs : List (List Node) → Nat
  | [] => 0
  | arg :: args => max (nestingOf arg) (nestingOfArgs args)

end

theorem nestingOf_le_iff {nodes : List Node} {k : Nat} :
    nestingOf nodes ≤ k ↔ ∀ node ∈ nodes, node.nesting ≤ k := by
  induction nodes with
  | nil => simp [nestingOf]
  | cons node nodes ih => rw [nestingOf, Nat.max_le, ih, List.forall_mem_cons]

theorem nestingOfArgs_le_iff {args : List (List Node)} {k : Nat} :
    nestingOfArgs args ≤ k ↔ ∀ arg ∈ args, nestingOf arg ≤ k := by
  induction args with
  | nil => simp [nestingOfArgs]
  | cons arg args ih => rw [nestingOfArgs, Nat.max_le, ih, List.forall_mem_cons]

@[simp] theorem nestingOf_reverse (nodes : List Node) :
    nestingOf nodes.reverse = nestingOf nodes :=
  eq_of_forall_ge_iff fun k => by simp only [nestingOf_le_iff, List.mem_reverse]

@[simp] theorem nestingOfArgs_reverse (args : List (List Node)) :
    nestingOfArgs args.reverse = nestingOfArgs args :=
  eq_of_forall_ge_iff fun k => by simp only [nestingOfArgs_le_iff, List.mem_reverse]

mutual

theorem nesting_relocate (f : Nat → Nat) : ∀ node : Node, (node.relocate f).nesting = node.nesting
  | literal _ _ | quoted _ _ | field _ _ | fieldList _ _ => rfl
  | call _ _ args => by rw [relocate, nesting, nestingOfArgs_relocateEach f args, nesting]
  | group _ content => by rw [relocate, nesting, nestingOf_relocateAll f content, nesting]

/-- How deep a sequence nests does not depend on its positions. -/
theorem nestingOf_relocateAll (f : Nat → Nat) : ∀ nodes : List Node,
    nestingOf (relocateAll f nodes) = nestingOf nodes
  | [] => rfl
  | node :: nodes => by
    rw [relocateAll, nestingOf, nesting_relocate f node, nestingOf_relocateAll f nodes, nestingOf]

theorem nestingOfArgs_relocateEach (f : Nat → Nat) : ∀ args : List (List Node),
    nestingOfArgs (relocateEach f args) = nestingOfArgs args
  | [] => rfl
  | arg :: args => by
    rw [relocateEach, nestingOfArgs, nestingOf_relocateAll f arg,
      nestingOfArgs_relocateEach f args, nestingOfArgs]

end

/-- Merging literal text does not change how deep a sequence nests. -/
theorem nestingOf_pushNode (nodes : List Node) (node : Node) :
    nestingOf (pushNode nodes node) = max (nestingOf nodes) node.nesting := by
  obtain ⟨position, text, rest, position', more, rfl, rfl, heq⟩ | ⟨-, heq⟩ :=
    pushNode_cases nodes node
  · simp [heq, nestingOf, nesting]
  · rw [heq, nestingOf, Nat.max_comm]

theorem nestingOfArgs_finishArgs (args : List (List Node)) :
    nestingOfArgs (Assembly.finishArgs args) = nestingOfArgs args := by
  by_cases h : args = [[]]
  · rw [h]
    rfl
  · rw [Assembly.finishArgs_of_ne h, nestingOfArgs_reverse]

end Node

/-- What a token makes on its own has no parts. -/
theorem Token.nesting_of_node? {position : Nat} {t : Token} {node : Node}
    (h : t.node? position = some node) : node.nesting = 0 := by
  cases t with
  | escaped c | quoted text | field name | fieldList name =>
    obtain rfl := Option.some.inj h
    rfl
  | _ => simp [node?] at h

/-! ### Trees under assembly -/

open Node (nestingOf nestingOfArgs)

/-- How deep calls and groups nest in the arguments that a frame has so far. -/
def Opening.nesting : Opening → Nat
  | group => 0
  | call _ args _ => nestingOfArgs args

/-- How deep calls and groups nest when the frames, which are given innermost first, are closed
around a sequence that nests `inner` deep. -/
def nestingAround (inner : Nat) : List Frame → Nat
  | [] => inner
  | ⟨opening, _, outer⟩ :: frames =>
    nestingAround (max (nestingOf outer) (max opening.nesting inner + 1)) frames

theorem nestingAround_mono {inner inner' : Nat} (h : inner ≤ inner') (frames : List Frame) :
    nestingAround inner frames ≤ nestingAround inner' frames := by
  induction frames generalizing inner inner' with
  | nil => exact h
  | cons frame frames ih => exact ih (by omega)

/-- Each frame is one more level. -/
theorem add_length_le_nestingAround (inner : Nat) (frames : List Frame) :
    inner + frames.length ≤ nestingAround inner frames := by
  induction frames generalizing inner with
  | nil => exact Nat.le_refl _
  | cons frame frames ih =>
    have hframes := ih (max (nestingOf frame.outer) (max frame.opening.nesting inner + 1))
    rw [nestingAround, List.length_cons]
    omega

namespace Assembly

/-- How deep calls and groups nest in the tree if everything open is closed. -/
def nesting (a : Assembly) : Nat := nestingAround (nestingOf a.nodes) a.frames

theorem length_frames_le_nesting (a : Assembly) : a.frames.length ≤ a.nesting :=
  Nat.le_of_add_left_le (add_length_le_nestingAround _ a.frames)

theorem nesting_le_push (a : Assembly) (node : Node) : a.nesting ≤ (a.push node).nesting :=
  nestingAround_mono (by rw [push, Node.nestingOf_pushNode]; exact Nat.le_max_left _ _) _

/-- **No step makes the nesting smaller.** -/
theorem nesting_le_of_effect {a a' : Assembly} {position : Nat} {t : Token}
    (h : Effect a position t a') : a.nesting ≤ a'.nesting := by
  cases h with
  | node _ | text _ | fault _ _ _ => exact nesting_le_push a _
  | openParenthesis heq | closeParenthesis heq =>
    -- the frame has the same arguments as before
    have hpush := nesting_le_push a (.literal position "")
    rw [nesting, nesting, push, heq, Node.nestingOf_pushNode] at hpush
    rw [nesting, nesting, heq, pushText, push, Node.nestingOf_pushNode]
    exact hpush
  | nextArgument heq =>
    rw [nesting, nesting, heq, nestingAround, nestingAround]
    refine nestingAround_mono ?_ _
    simp only [Opening.nesting, Node.nestingOf, nestingOfArgs, Node.nestingOf_reverse]
    omega
  | closeCall heq =>
    rw [nesting, nesting, heq, nestingAround]
    refine nestingAround_mono ?_ _
    rw [Node.nestingOf_pushNode, Node.nesting, Node.nestingOfArgs_finishArgs, nestingOfArgs,
      Node.nestingOf_reverse, Opening.nesting]
    omega
  | openCall _ _ | openGroup _ =>
    refine nestingAround_mono ?_ a.frames
    exact Nat.le_max_left _ _
  | closeGroup heq =>
    rw [nesting, nesting, heq, nestingAround]
    refine nestingAround_mono ?_ _
    rw [Node.nestingOf_pushNode, Node.nesting, Node.nestingOf_reverse, Opening.nesting]
    omega

end Assembly

end TitleScript
