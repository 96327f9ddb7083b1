import TitleScript.Script.Node
import TitleScript.Script.Token

/-!
# From tokens to a tree

The tree is assembled in one pass over the tokens. What is open at any moment is a stack of
frames, innermost first: a group waiting for its bracket, or a call waiting for its parenthesis
with the arguments it has so far. The innermost frame alone decides what a comma, a parenthesis
or a closing bracket does.

Nothing closes early, so every frame still open when the tokens run out is unterminated. A call
then keeps the arguments it has, and a group turns back into a bracket and its content.

Sequences under assembly are kept last node first.

## Main definitions

* `pushNode` — one more node in a sequence, literal text merged with literal text before it
* `Frame`, `Assembly` — what is open
* `Assembly.step` — the effect of one token
* `Assembly.finish` — the end of the source
-/

namespace TitleScript

/-- The greatest number of calls and groups that can be open at once. -/
def maxDepth : Nat := 64

/-- A sequence, last node first, with one more node. Literal text is merged into literal text
before it and keeps the position of the first part. -/
def pushNode : List Node → Node → List Node
  | .literal p text :: nodes, .literal _ more => .literal p (text ++ more) :: nodes
  | nodes, node => node :: nodes

/-- What a frame waits for. -/
inductive Opening
  /-- A closing bracket. -/
  | group
  /-- A closing parenthesis: the name, the arguments so far with the last one first, and how many
  parentheses are open inside the current argument. -/
  | call (name : String) (args : List (List Node)) (parentheses : Nat)

/-- A construct that is not closed yet, where it began, and the sequence it interrupted. -/
structure Frame where
  opening : Opening
  position : Nat
  outer : List Node

/-- A tree under assembly: the innermost sequence, what is open around it with the innermost
first, and the faults found so far with the last one first. -/
structure Assembly where
  nodes : List Node
  frames : List Frame
  faults : List Fault

namespace Assembly

/-- Nothing read yet. -/
def empty : Assembly := ⟨[], [], []⟩

/-! ### The parts of a step -/

/-- Add a node to the innermost sequence. -/
def push (a : Assembly) (node : Node) : Assembly :=
  { a with nodes := pushNode a.nodes node }

/-- Add text that stands for itself. -/
def pushText (a : Assembly) (position : Nat) (text : List Char) : Assembly :=
  a.push (.literal position (String.ofList text))

/-- Record a fault. -/
def report (a : Assembly) (position : Nat) (cause : Fault.Cause) (excerpt : List Char) :
    Assembly :=
  { a with faults := ⟨position, String.ofList excerpt, cause⟩ :: a.faults }

/-- Take source as text that stands for itself, and record why. -/
def fault (a : Assembly) (position : Nat) (cause : Fault.Cause) (source : List Char) : Assembly :=
  (a.pushText position source).report position cause (Token.excerpt cause source)

/-- Open a construct, unless too many are open. -/
def openFrame (a : Assembly) (position : Nat) (opening : Opening) (source : List Char) :
    Assembly :=
  if a.frames.length < maxDepth then
    { a with nodes := [], frames := ⟨opening, position, a.nodes⟩ :: a.frames }
  else a.fault position .tooDeep source

/-- The arguments of a call, given with the last one first. A call without any source between its
parentheses has none, not one that is empty. -/
def finishArgs : List (List Node) → List (List Node)
  | [[]] => []
  | args => args.reverse

/-- A character that no construct announces, inside an argument of a call. -/
def argumentChar (a : Assembly) (position : Nat) (c : Char) (frame : Frame) (frames : List Frame)
    (name : String) (args : List (List Node)) (parentheses : Nat) : Assembly :=
  match c, parentheses with
  | '(', n =>
    { a.pushText position [c] with
      frames := { frame with opening := .call name args (n + 1) } :: frames }
  | ')', n + 1 =>
    { a.pushText position [c] with
      frames := { frame with opening := .call name args n } :: frames }
  | ')', 0 =>
    { a with
      nodes := pushNode frame.outer
        (.call frame.position name (finishArgs (a.nodes.reverse :: args)))
      frames := frames }
  | ',', 0 =>
    { a with
      nodes := []
      frames := { frame with opening := .call name (a.nodes.reverse :: args) 0 } :: frames }
  | c, _ => a.pushText position [c]

/-- A character that no construct announces. -/
def plainChar (a : Assembly) (position : Nat) (c : Char) : Assembly :=
  match a.frames with
  | frame@⟨.call name args parentheses, _, _⟩ :: frames =>
    a.argumentChar position c frame frames name args parentheses
  | _ => a.pushText position [c]

/-- A closing bracket, which closes a group or has none to close. -/
def closeGroup (a : Assembly) (position : Nat) : Assembly :=
  match a.frames with
  | ⟨.group, start, outer⟩ :: frames =>
    { a with nodes := pushNode outer (.group start a.nodes.reverse), frames := frames }
  | _ => a.fault position .unexpectedBracket [']']

/-- The effect of one token. -/
def step (a : Assembly) : Nat × Token → Assembly
  | (position, .plain c) => a.plainChar position c
  | (position, .escaped c) => a.pushText position [c]
  | (position, .quoted text) => a.push (.quoted position (String.ofList text))
  | (position, .field name) => a.push (.field position (String.ofList name))
  | (position, .fieldList name) => a.push (.fieldList position (String.ofList name))
  | (position, .callStart name) =>
    a.openFrame position (.call (String.ofList name) [] 0) (Token.callStart name).spelling
  | (position, .groupStart) => a.openFrame position .group ['[']
  | (position, .groupEnd) => a.closeGroup position
  | (position, .faulty cause source) => a.fault position cause source

/-! ### The end of the source -/

/-- Close the frames that the source left open, innermost first. -/
def unwind (nodes : List Node) (faults : List Fault) : List Frame → List Node × List Fault
  | [] => (nodes, faults)
  | ⟨.call name args _, position, outer⟩ :: frames =>
    unwind (pushNode outer (.call position name (finishArgs (nodes.reverse :: args))))
      (⟨position, "$" ++ name ++ "(", .unterminatedCall⟩ :: faults) frames
  | ⟨.group, position, outer⟩ :: frames =>
    unwind (nodes.reverse.foldl pushNode (pushNode outer (.literal position "[")))
      (⟨position, "[", .unterminatedGroup⟩ :: faults) frames

/-- The whole sequence and the faults, each in source order as far as they were found so. -/
def finish (a : Assembly) : List Node × List Fault :=
  let (nodes, faults) := unwind a.nodes a.faults a.frames
  (nodes.reverse, faults.reverse)

/-- The assembly after all tokens of a source. -/
def ofTokens (tokens : List (Nat × Token)) : Assembly :=
  tokens.foldl step empty

end Assembly

end TitleScript
