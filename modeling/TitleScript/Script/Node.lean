/-!
# The tree of a script

A script is a sequence of nodes. Calls hold one sequence for every argument, and groups hold the
sequence between their brackets. Every node knows the byte position where its source begins.

## Main definitions

* `Node` — the nodes
* `Node.position` — where the source of a node begins
* `Node.literalText?` — the text of a node that stands for itself
-/

namespace TitleScript

/-- A node of a script. -/
inductive Node
  /-- Text that stands for itself. -/
  | literal (position : Nat) (text : String)
  /-- Text between quotes, or a single quote character written as two. -/
  | quoted (position : Nat) (text : String)
  /-- The value of a field, its values joined when it has several. -/
  | field (position : Nat) (name : String)
  /-- Each value of a field in turn. -/
  | fieldList (position : Nat) (name : String)
  /-- A function called on arguments. -/
  | call (position : Nat) (name : String) (args : List (List Node))
  /-- A part that is shown only when all of it is present. -/
  | group (position : Nat) (content : List Node)
deriving Repr, BEq

namespace Node

/-- The byte position where the source of the node begins. -/
def position : Node → Nat
  | literal p _ | quoted p _ | field p _ | fieldList p _ | call p _ _ | group p _ => p

/-- The text of a node that stands for itself, quoted or not. -/
def literalText? : Node → Option String
  | literal _ text | quoted _ text => some text
  | _ => none

end Node

end TitleScript
