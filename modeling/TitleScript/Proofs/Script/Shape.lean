import TitleScript.Proofs.Script.Relocation
import TitleScript.Proofs.Script.Token

/-!
# Trees up to positions

The shape of a node is the node with every position in it set to zero. Positions steer nothing, so
shapes are assembled by the same steps as nodes, and what a source is read as, its positions aside,
depends on its tokens alone.

## Main definitions

* `Node.shape`, `Node.shapesOf` — a node and a sequence without their positions
* `Assembly.shape` — a tree under assembly without its positions
* `Assembly.take` — the effect of tokens when no position is kept

## Main results

* `Assembly.shape_foldl_step` — shapes are assembled like nodes
-/

namespace TitleScript

/-! ### The shape of a tree -/

namespace Node

mutual

/-- The node with every position in it set to zero. -/
def shape : Node → Node
  | literal _ text => literal 0 text
  | quoted _ text => quoted 0 text
  | field _ name => field 0 name
  | fieldList _ name => fieldList 0 name
  | call _ name args => call 0 name (shapesOfArgs args)
  | group _ content => group 0 (shapesOf content)

/-- The shapes of a sequence. Two sequences are equal up to positions if these are equal. -/
def shapesOf : List Node → List Node
  | [] => []
  | node :: nodes => node.shape :: shapesOf nodes

/-- The shapes of the arguments of a call. -/
def shapesOfArgs : List (List Node) → List (List Node)
  | [] => []
  | arg :: args => shapesOf arg :: shapesOfArgs args

end

theorem shapesOf_eq (nodes : List Node) : shapesOf nodes = nodes.map shape := by
  induction nodes with
  | nil => rfl
  | cons node nodes ih => rw [shapesOf, ih, List.map_cons]

theorem shapesOfArgs_eq (args : List (List Node)) : shapesOfArgs args = args.map shapesOf := by
  induction args with
  | nil => rfl
  | cons arg args ih => rw [shapesOfArgs, ih, List.map_cons]

@[simp] theorem shapesOf_nil : shapesOf [] = [] := rfl

@[simp] theorem shapesOf_reverse (nodes : List Node) :
    shapesOf nodes.reverse = (shapesOf nodes).reverse := by
  simp [shapesOf_eq]

mutual

theorem shape_eq : ∀ node : Node, node.shape = node.relocate fun _ => 0
  | literal _ _ | quoted _ _ | field _ _ | fieldList _ _ => rfl
  | call _ _ args => by rw [shape, relocate, shapesOfArgs_eq_relocateEach args]
  | group _ content => by rw [shape, relocate, shapesOf_eq_relocateAll content]

/-- The shapes of a sequence are its nodes with all positions at zero. -/
theorem shapesOf_eq_relocateAll : ∀ nodes : List Node,
    shapesOf nodes = relocateAll (fun _ => 0) nodes
  | [] => rfl
  | node :: nodes => by
    rw [shapesOf, shape_eq node, shapesOf_eq_relocateAll nodes, relocateAll]

theorem shapesOfArgs_eq_relocateEach : ∀ args : List (List Node),
    shapesOfArgs args = relocateEach (fun _ => 0) args
  | [] => rfl
  | arg :: args => by
    rw [shapesOfArgs, shapesOf_eq_relocateAll arg, shapesOfArgs_eq_relocateEach args,
      relocateEach]

end

/-- The shape of a sequence at other positions is its shape. -/
theorem shapesOf_relocateAll (f : Nat → Nat) (nodes : List Node) :
    shapesOf (relocateAll f nodes) = shapesOf nodes := by
  rw [shapesOf_eq_relocateAll, shapesOf_eq_relocateAll, relocateAll_relocateAll]
  rfl

/-- Only the empty argument has its shape. -/
theorem shapesOfArgs_ne {args : List (List Node)} (h : args ≠ [[]]) : shapesOfArgs args ≠ [[]] := by
  rw [shapesOfArgs_eq_relocateEach]
  exact relocateEach_ne _ h

end Node

/-! ### The shape of a tree under assembly -/

/-- What a frame waits for, without positions. -/
def Opening.shape : Opening → Opening
  | group => group
  | call name args parentheses => call name (Node.shapesOfArgs args) parentheses

/-- The frame without positions. -/
def Frame.shape (f : Frame) : Frame := ⟨f.opening.shape, 0, Node.shapesOf f.outer⟩

/-- The fault without its position. -/
def Fault.shape (f : Fault) : Fault := { f with position := 0 }

namespace Assembly

/-- The tree under assembly without positions. -/
def shape (a : Assembly) : Assembly :=
  ⟨Node.shapesOf a.nodes, a.frames.map Frame.shape, a.faults.map Fault.shape⟩

theorem shape_eq (a : Assembly) : a.shape = a.relocate fun _ => 0 := by
  have hopening (opening : Opening) : opening.shape = opening.relocate fun _ => 0 := by
    cases opening with
    | group => rfl
    | call name args n =>
      rw [Opening.shape, Opening.relocate, Node.shapesOfArgs_eq_relocateEach]
  have hframe : Frame.shape = Frame.relocate fun _ => 0 := by
    funext frame
    rw [Frame.shape, Frame.relocate, hopening, Node.shapesOf_eq_relocateAll]
  rw [shape, relocate, hframe, Node.shapesOf_eq_relocateAll]
  rfl

/-- The assembly after more tokens, none of which has a position. -/
def take (a : Assembly) (ts : List Token) : Assembly := ts.foldl (fun a t => a.step (0, t)) a

@[simp] theorem take_cons (a : Assembly) (t : Token) (ts : List Token) :
    a.take (t :: ts) = (a.step (0, t)).take ts := rfl

/-- The shape of what tokens assemble to depends on the tokens without their positions. -/
theorem shape_foldl_step (a : Assembly) (xs : List (Nat × Token)) :
    (xs.foldl step a).shape = a.shape.take (xs.map (·.2)) := by
  rw [shape_eq, shape_eq, relocate_foldl_step, take, List.foldl_map, List.foldl_map]

theorem shape_ofTokens_scan (cs : List Char) :
    (ofTokens (Token.scan cs)).shape = empty.take (Token.tokens cs) := by
  rw [ofTokens, shape_foldl_step, Token.scan_eq, Token.map_snd_withPositions]
  rfl

end Assembly

end TitleScript
