import TitleScript.Proofs.Script.Sequence
import TitleScript.Script

/-!
# Trees at other positions

A position is written into a node when the node is made, and nothing looks at it again before the
tree is finished. So positions can be changed before a source is read or after that, with the same
result: where tokens are at other positions, they assemble to the same tree at other positions. How
positions change is free. They are all set to zero to compare trees up to positions, and they are
all moved by the same number of bytes when a source stands inside another one.

## Main definitions

* `Node.relocate`, `Node.relocateAll` — a node and a sequence with their positions changed
* `Assembly.relocate` — a tree under assembly with its positions changed

## Main results

* `Assembly.relocate_foldl_step` — tokens at other positions assemble to the tree at those positions
* `Assembly.finish_relocate` — so does what the end of the source makes of it
-/

namespace TitleScript

variable (f : Nat → Nat)

/-! ### The parts of a tree -/

namespace Node

mutual

/-- The node with `f p` for each position `p` in it. -/
def relocate : Node → Node
  | literal p text => literal (f p) text
  | quoted p text => quoted (f p) text
  | field p name => field (f p) name
  | fieldList p name => fieldList (f p) name
  | call p name args => call (f p) name (relocateEach args)
  | group p content => group (f p) (relocateAll content)

/-- The nodes of a sequence at other positions. -/
def relocateAll : List Node → List Node
  | [] => []
  | node :: nodes => node.relocate :: relocateAll nodes

/-- The arguments of a call at other positions. -/
def relocateEach : List (List Node) → List (List Node)
  | [] => []
  | arg :: args => relocateAll arg :: relocateEach args

end

theorem relocateAll_eq (nodes : List Node) : relocateAll f nodes = nodes.map (relocate f) := by
  induction nodes with
  | nil => rfl
  | cons node nodes ih => rw [relocateAll, ih, List.map_cons]

theorem relocateEach_eq (args : List (List Node)) :
    relocateEach f args = args.map (relocateAll f) := by
  induction args with
  | nil => rfl
  | cons arg args ih => rw [relocateEach, ih, List.map_cons]

@[simp] theorem relocateAll_nil : relocateAll f [] = [] := rfl

@[simp] theorem relocateAll_reverse (nodes : List Node) :
    relocateAll f nodes.reverse = (relocateAll f nodes).reverse := by
  simp [relocateAll_eq]

mutual

theorem relocate_relocate (g : Nat → Nat) : ∀ node : Node,
    (node.relocate f).relocate g = node.relocate (g ∘ f)
  | literal _ _ | quoted _ _ | field _ _ | fieldList _ _ => rfl
  | call _ _ args => by
    rw [relocate, relocate, relocateEach_relocateEach g args, relocate]
    rfl
  | group _ content => by
    rw [relocate, relocate, relocateAll_relocateAll g content, relocate]
    rfl

/-- Positions changed twice are changed at once by both changes. -/
theorem relocateAll_relocateAll (g : Nat → Nat) : ∀ nodes : List Node,
    relocateAll g (relocateAll f nodes) = relocateAll (g ∘ f) nodes
  | [] => rfl
  | node :: nodes => by
    rw [relocateAll, relocateAll, relocate_relocate g node, relocateAll_relocateAll g nodes,
      relocateAll]

theorem relocateEach_relocateEach (g : Nat → Nat) : ∀ args : List (List Node),
    relocateEach g (relocateEach f args) = relocateEach (g ∘ f) args
  | [] => rfl
  | arg :: args => by
    rw [relocateEach, relocateEach, relocateAll_relocateAll g arg, relocateEach_relocateEach g args,
      relocateEach]

end

/-- Only the empty argument is moved to the empty argument. -/
theorem relocateEach_ne {args : List (List Node)} (h : args ≠ [[]]) :
    relocateEach f args ≠ [[]] := by
  match args with
  | [] => simp [relocateEach]
  | [[]] => exact absurd rfl h
  | (_ :: _) :: _ => simp [relocateEach, relocateAll]
  | _ :: _ :: _ => simp [relocateEach]

theorem isLiteral_relocate {node : Node} : (node.relocate f).IsLiteral ↔ node.IsLiteral := by
  cases node <;> rfl

theorem relocateAll_pushNode (nodes : List Node) (node : Node) :
    relocateAll f (pushNode nodes node) = pushNode (relocateAll f nodes) (node.relocate f) := by
  cases nodes with
  | nil => cases node <;> rfl
  | cons last nodes => cases last <;> cases node <;> rfl

theorem relocateAll_foldl_pushNode (nodes more : List Node) :
    relocateAll f (more.foldl pushNode nodes)
      = (relocateAll f more).foldl pushNode (relocateAll f nodes) := by
  induction more generalizing nodes with
  | nil => rfl
  | cons node more ih =>
    rw [List.foldl_cons, ih, relocateAll_pushNode, relocateAll, List.foldl_cons]

end Node

/-- What a frame waits for, at other positions. -/
def Opening.relocate : Opening → Opening
  | group => group
  | call name args parentheses => call name (Node.relocateEach f args) parentheses

/-- The frame at another position. -/
def Frame.relocate (frame : Frame) : Frame :=
  ⟨frame.opening.relocate f, f frame.position, Node.relocateAll f frame.outer⟩

/-- The fault at another position. -/
def Fault.relocate (fault : Fault) : Fault := { fault with position := f fault.position }

/-! ### Trees under assembly -/

namespace Assembly

/-- The tree under assembly at other positions. -/
def relocate (a : Assembly) : Assembly :=
  ⟨Node.relocateAll f a.nodes, a.frames.map (Frame.relocate f), a.faults.map (Fault.relocate f)⟩

theorem relocate_push (a : Assembly) (node : Node) :
    (a.push node).relocate f = (a.relocate f).push (node.relocate f) := by
  simp [relocate, push, Node.relocateAll_pushNode]

theorem relocate_pushText (a : Assembly) (position : Nat) (text : List Char) :
    (a.pushText position text).relocate f = (a.relocate f).pushText (f position) text :=
  relocate_push f a _

theorem relocate_fault (a : Assembly) (position : Nat) (cause : Fault.Cause)
    (source : List Char) :
    (a.fault position cause source).relocate f
      = (a.relocate f).fault (f position) cause source := by
  rw [fault, fault, ← relocate_pushText]
  rfl

theorem relocate_openFrame (a : Assembly) (position : Nat) (opening : Opening)
    (source : List Char) :
    (a.openFrame position opening source).relocate f
      = (a.relocate f).openFrame (f position) (opening.relocate f) source := by
  have hlength : (a.relocate f).frames.length = a.frames.length := List.length_map _
  rw [openFrame, openFrame, hlength]
  split
  · rfl
  · exact relocate_fault f a ..

theorem relocateEach_finishArgs (args : List (List Node)) :
    Node.relocateEach f (finishArgs args) = finishArgs (Node.relocateEach f args) := by
  by_cases h : args = [[]]
  · rw [h]
    rfl
  · rw [finishArgs_of_ne h, finishArgs_of_ne (Node.relocateEach_ne f h)]
    simp [Node.relocateEach_eq]

theorem relocate_argumentChar (a : Assembly) (position : Nat) (c : Char) (frame : Frame)
    (frames : List Frame) (name : String) (args : List (List Node)) (parentheses : Nat) :
    (a.argumentChar position c frame frames name args parentheses).relocate f
      = (a.relocate f).argumentChar (f position) c (frame.relocate f)
          (frames.map (Frame.relocate f)) name (Node.relocateEach f args) parentheses := by
  unfold argumentChar
  split <;>
    simp_all [relocate, pushText, push, Frame.relocate, Opening.relocate,
      Node.relocateAll_pushNode, Node.relocate, Node.relocateEach, relocateEach_finishArgs]

theorem relocate_plainChar (a : Assembly) (position : Nat) (c : Char) :
    (a.plainChar position c).relocate f = (a.relocate f).plainChar (f position) c := by
  obtain ⟨nodes, frames, faults⟩ := a
  match frames with
  | [] | ⟨.group, _, _⟩ :: _ => exact relocate_pushText f ..
  | ⟨.call name args n, start, outer⟩ :: frames => exact relocate_argumentChar f ..

theorem relocate_closeGroup (a : Assembly) (position : Nat) :
    (a.closeGroup position).relocate f = (a.relocate f).closeGroup (f position) := by
  obtain ⟨nodes, frames, faults⟩ := a
  match frames with
  | [] | ⟨.call .., _, _⟩ :: _ => exact relocate_fault f ..
  | ⟨.group, start, outer⟩ :: frames =>
    simp [relocate, closeGroup, Frame.relocate, Opening.relocate, Node.relocateAll_pushNode,
      Node.relocate]

/-- A token at another position makes of a tree at other positions what it makes of the tree. -/
theorem relocate_step (a : Assembly) (position : Nat) (t : Token) :
    (a.step (position, t)).relocate f = (a.relocate f).step (f position, t) := by
  cases t with
  | plain c => exact relocate_plainChar f a position c
  | escaped c => exact relocate_pushText f a position [c]
  | quoted text | field name | fieldList name => exact relocate_push f a _
  | callStart name | groupStart => exact relocate_openFrame f a ..
  | groupEnd => exact relocate_closeGroup f a position
  | faulty cause source => exact relocate_fault f a position cause source

/-- **Positions steer nothing.** Tokens at other positions assemble to the tree at other
positions. -/
theorem relocate_foldl_step (a : Assembly) (xs : List (Nat × Token)) :
    (xs.foldl step a).relocate f
      = (xs.map fun x => (f x.1, x.2)).foldl step (a.relocate f) := by
  induction xs generalizing a with
  | nil => rfl
  | cons x xs ih => rw [List.foldl_cons, ih, relocate_step, List.map_cons, List.foldl_cons]

/-! ### The end of the source -/

theorem unwind_relocate (nodes : List Node) (faults : List Fault) (frames : List Frame) :
    unwind (Node.relocateAll f nodes) (faults.map (Fault.relocate f))
        (frames.map (Frame.relocate f))
      = (Node.relocateAll f (unwind nodes faults frames).1,
          (unwind nodes faults frames).2.map (Fault.relocate f)) := by
  induction frames generalizing nodes faults with
  | nil => rfl
  | cons frame frames ih =>
    obtain ⟨opening, start, outer⟩ := frame
    cases opening with
    | group =>
      have hnodes : (Node.relocateAll f nodes).reverse.foldl pushNode
            (pushNode (Node.relocateAll f outer) (.literal (f start) "["))
          = Node.relocateAll f (nodes.reverse.foldl pushNode
              (pushNode outer (.literal start "["))) := by
        rw [Node.relocateAll_foldl_pushNode, Node.relocateAll_pushNode, Node.relocateAll_reverse]
        rfl
      rw [unwind, ← ih, ← hnodes]
      rfl
    | call name args n =>
      have hnodes : pushNode (Node.relocateAll f outer) (.call (f start) name
            (finishArgs ((Node.relocateAll f nodes).reverse :: Node.relocateEach f args)))
          = Node.relocateAll f
              (pushNode outer (.call start name (finishArgs (nodes.reverse :: args)))) := by
        rw [Node.relocateAll_pushNode, Node.relocate, relocateEach_finishArgs, Node.relocateEach,
          Node.relocateAll_reverse]
      rw [unwind, ← ih, ← hnodes]
      rfl

/-- At the end of the source, positions can be changed before or after what is open is closed. -/
theorem finish_relocate (a : Assembly) :
    (a.relocate f).finish
      = (Node.relocateAll f a.finish.1, a.finish.2.map (Fault.relocate f)) := by
  have hunwind := unwind_relocate f a.nodes a.faults a.frames
  simp only [finish, relocate, hunwind, Node.relocateAll_reverse, List.map_reverse]

end Assembly

end TitleScript
