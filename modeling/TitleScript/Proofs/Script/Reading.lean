import TitleScript.Proofs.Script.Shape
import TitleScript.Proofs.Script.Step

/-!
# Sources that are read as nodes

A source that is complete in itself, with every construct in it closed, is read the same wherever
it stands: its nodes are added to the innermost sequence, nothing stays open, and no fault is
found. What it is read as depends on its surroundings in two respects only, the place and the
number of open frames. `Reads` says this of a source, with any assembly before it and any source
behind it, so that the lemmas about it compose like the sources do.

Positions are left out, so these are statements about shapes.

## Main definitions

* `gather` — a sequence after literal text has been merged
* `Reads` — a source that is read as some nodes

## Main results

* `Reads.append`, `Reads.group`, `Reads.parentheses`, `Reads.call` — how such sources compose
* `Script.parse_of_reads` — the script that such a source makes
-/

namespace TitleScript

open Token

/-- The sequence that nodes make when they are added one by one, with literal text merged. -/
def gather (nodes : List Node) : List Node := (nodes.foldl pushNode []).reverse

@[simp] theorem reverse_foldl_pushNode (nodes : List Node) :
    (nodes.foldl pushNode []).reverse = gather nodes := rfl

/-- At the place, and with `depth` frames open, the source is read as the nodes. -/
def Reads (place : Place) (depth : Nat) (source : List Char) (nodes : List Node) : Prop :=
  ∀ (a : Assembly) (rest : List Char), Place.inside a.frames = place → a.frames.length = depth →
    a.take (tokens (source ++ rest))
      = { a with nodes := nodes.foldl pushNode a.nodes }.take (tokens rest)

/-! ### Reading one token -/

namespace Assembly

theorem take_spelling {t : Token} (h : t.WellFormed) (hclean : ¬t.IsFaulty) (a : Assembly)
    (rest : List Char) :
    a.take (tokens (t.spelling ++ rest)) = (a.step (0, t)).take (tokens rest) := by
  rw [tokens_spelling_append h hclean, take_cons]

theorem take_plain {c : Char} (h : isStructural c = false) (a : Assembly) (rest : List Char) :
    a.take (tokens (c :: rest)) = (a.step (0, plain c)).take (tokens rest) :=
  take_spelling (t := plain c) h id a rest

theorem take_groupStart (a : Assembly) (rest : List Char) :
    a.take (tokens ('[' :: rest)) = (a.step (0, groupStart)).take (tokens rest) :=
  take_spelling (t := groupStart) trivial id a rest

theorem take_groupEnd (a : Assembly) (rest : List Char) :
    a.take (tokens (']' :: rest)) = (a.step (0, groupEnd)).take (tokens rest) :=
  take_spelling (t := groupEnd) trivial id a rest

/-- A construct opens if there is room for it. -/
theorem openFrame_of_lt {a : Assembly} (h : a.frames.length < maxDepth) (position : Nat)
    (opening : Opening) (source : List Char) :
    a.openFrame position opening source
      = { a with nodes := [], frames := ⟨opening, position, a.nodes⟩ :: a.frames } :=
  if_pos h

end Assembly

namespace Reads

variable {place : Place} {depth : Nat}

theorem nil : Reads place depth [] [] := fun _ _ _ _ => rfl

theorem append {source source' : List Char} {nodes nodes' : List Node}
    (h : Reads place depth source nodes) (h' : Reads place depth source' nodes') :
    Reads place depth (source ++ source') (nodes ++ nodes') := by
  intro a rest hplace hdepth
  rw [List.append_assoc, h a _ hplace hdepth,
    h' { a with nodes := nodes.foldl pushNode a.nodes } rest hplace hdepth, List.foldl_append]

/-- Nodes that have the same effect on every sequence can stand for each other. -/
theorem congr {source : List Char} {nodes nodes' : List Node} (h : Reads place depth source nodes)
    (heq : ∀ before, nodes.foldl pushNode before = nodes'.foldl pushNode before) :
    Reads place depth source nodes' := by
  intro a rest hplace hdepth
  rw [h a rest hplace hdepth, heq]

/-- A token that adds a node wherever it stands. -/
theorem token {t : Token} {node : Node} (ht : t.WellFormed) (hclean : ¬t.IsFaulty)
    (hstep : ∀ a : Assembly, Place.inside a.frames = place → a.step (0, t) = a.push node) :
    Reads place depth t.spelling [node] := by
  intro a rest hplace _
  rw [Assembly.take_spelling ht hclean, hstep a hplace]
  rfl

theorem text {c : Char} (h : place.admits c) :
    Reads place depth [c] [.literal 0 (String.ofList [c])] :=
  token (t := plain c) (Place.isStructural_of_admits h) id fun a hplace =>
    Assembly.step_text (by rwa [hplace])

theorem escaped (c : Char) : Reads place depth ['\\', c] [.literal 0 (String.ofList [c])] :=
  token (t := Token.escaped c) trivial id fun _ _ => rfl

theorem quoted {text : List Char} (h : (Token.quoted text).WellFormed) :
    Reads place depth (Token.quoted text).spelling [.quoted 0 (String.ofList text)] :=
  token h id fun _ _ => rfl

theorem field {name : List Char} (h : isReferenceable (String.ofList name)) :
    Reads place depth ('%' :: name ++ ['%']) [.field 0 (String.ofList name)] :=
  token (t := Token.field name) h id fun _ _ => rfl

theorem fieldList {name : List Char} (h : isReferenceable (String.ofList name)) :
    Reads place depth ('%' :: '<' :: name ++ ['>', '%']) [.fieldList 0 (String.ofList name)] :=
  token (t := Token.fieldList name) h id fun _ _ => rfl

/-! ### Brackets and parentheses -/

/-- Closing a group puts what is between its brackets into one node. -/
theorem group {source : List Char} {nodes : List Node} (hdepth : depth < maxDepth)
    (h : Reads .group (depth + 1) source nodes) :
    Reads place depth ('[' :: source ++ [']']) [.group 0 (gather nodes)] := by
  intro a rest _ hlength
  have hopen := Assembly.openFrame_of_lt (a := a) (hlength ▸ hdepth) 0 .group ['[']
  calc a.take (tokens ('[' :: source ++ [']'] ++ rest))
      = (a.step (0, groupStart)).take (tokens (source ++ (']' :: rest))) := by
        rw [← Assembly.take_groupStart]
        simp
    _ = Assembly.take ⟨nodes.foldl pushNode [], ⟨.group, 0, a.nodes⟩ :: a.frames, a.faults⟩
          (tokens (']' :: rest)) := by
        rw [Assembly.step, hopen]
        exact h _ _ rfl (by simp [hlength])
    _ = _ := by
        rw [Assembly.take_groupEnd]
        rfl

/-- Parentheses in an argument are text, and so are the commas between them. -/
theorem parentheses {source : List Char} {nodes : List Node}
    (hplace : place = .argument ∨ place = .parentheses)
    (h : Reads .parentheses depth source nodes) :
    Reads place depth ('(' :: source ++ [')'])
      (.literal 0 "(" :: nodes ++ [.literal 0 ")"]) := by
  intro a rest hinside hlength
  obtain ⟨before, frames, faults⟩ := a
  match frames with
  | [] | ⟨.group, _, _⟩ :: _ => simp [← hinside, Place.inside] at hplace
  | ⟨.call name args n, start, outer⟩ :: frames =>
    calc Assembly.take ⟨before, ⟨.call name args n, start, outer⟩ :: frames, faults⟩
          (tokens ('(' :: source ++ [')'] ++ rest))
        = Assembly.take ⟨pushNode before (.literal 0 "("),
            ⟨.call name args (n + 1), start, outer⟩ :: frames, faults⟩
            (tokens (source ++ (')' :: rest))) := by
          rw [List.cons_append, List.cons_append, List.append_assoc, Assembly.take_plain rfl]
          rfl
      _ = Assembly.take ⟨nodes.foldl pushNode (pushNode before (.literal 0 "(")),
            ⟨.call name args (n + 1), start, outer⟩ :: frames, faults⟩ (tokens (')' :: rest)) :=
          h _ _ rfl hlength
      _ = _ := by
          rw [Assembly.take_plain rfl, List.foldl_append]
          rfl

/-! ### Calls -/

section Call

variable {ι : Type} {source : ι → List Char} {nodes : ι → List Node}

/-- The arguments of a call up to its parenthesis, with those in `done` before them. -/
theorem take_arguments {items : List ι} (hne : items ≠ [])
    (h : ∀ i ∈ items, Reads .argument (depth + 1) (source i) (nodes i))
    (name : String) (done : List (List Node)) (start : Nat) (outer : List Node)
    (frames : List Frame) (faults : List Fault) (hlength : frames.length = depth)
    (rest : List Char) :
    Assembly.take ⟨[], ⟨.call name done 0, start, outer⟩ :: frames, faults⟩
        (tokens ([','].intercalate (items.map source) ++ ')' :: rest))
      = Assembly.take ⟨pushNode outer (.call start name
          (Assembly.finishArgs ((items.map fun i => gather (nodes i)).reverse ++ done))),
          frames, faults⟩ (tokens rest) := by
  induction items generalizing done with
  | nil => exact absurd rfl hne
  | cons i items ih =>
    have hi := h i List.mem_cons_self
      ⟨[], ⟨.call name done 0, start, outer⟩ :: frames, faults⟩
    cases items with
    | nil =>
      rw [List.map_singleton, List.intercalate_singleton, hi _ rfl (by simp [hlength]),
        Assembly.take_plain rfl]
      rfl
    | cons j items =>
      have hcomma : Assembly.step ⟨(nodes i).foldl pushNode [],
            ⟨.call name done 0, start, outer⟩ :: frames, faults⟩ (0, plain ',')
          = ⟨[], ⟨.call name (gather (nodes i) :: done) 0, start, outer⟩ :: frames, faults⟩ := rfl
      rw [List.map_cons, List.map_cons, List.intercalate_cons_cons, List.append_assoc,
        List.append_assoc, hi _ rfl (by simp [hlength]), List.singleton_append,
        Assembly.take_plain rfl, hcomma, ← List.map_cons,
        ih (by simp) fun k hk => h k (List.mem_cons_of_mem _ hk)]
      simp

/-- A call has the gathered nodes of its arguments, but none if it has one argument without
nodes. -/
theorem call {name : List Char} {items : List ι} (hname : isCallable (String.ofList name))
    (hdepth : depth < maxDepth)
    (h : ∀ i ∈ items, Reads .argument (depth + 1) (source i) (nodes i)) :
    Reads place depth ('$' :: name ++ '(' :: [','].intercalate (items.map source) ++ [')'])
      [.call 0 (String.ofList name)
        (Assembly.finishArgs (items.map fun i => gather (nodes i)).reverse)] := by
  intro a rest _ hlength
  have hopen := Assembly.openFrame_of_lt (a := a) (hlength ▸ hdepth) 0
    (.call (String.ofList name) [] 0) (callStart name).spelling
  calc a.take (tokens ('$' :: name ++ '(' :: [','].intercalate (items.map source) ++ [')'] ++ rest))
      = (a.step (0, callStart name)).take
          (tokens ([','].intercalate (items.map source) ++ (')' :: rest))) := by
        rw [← Assembly.take_spelling (t := callStart name) hname id]
        simp [spelling]
    _ = Assembly.take ⟨[], ⟨.call (String.ofList name) [] 0, 0, a.nodes⟩ :: a.frames, a.faults⟩
          (tokens ([','].intercalate (items.map source) ++ (')' :: rest))) := by
        rw [Assembly.step, hopen]
    _ = _ := by
        cases items with
        | nil =>
          rw [List.map_nil, List.intercalate_nil, List.nil_append, Assembly.take_plain rfl]
          rfl
        | cons i items =>
          rw [take_arguments (by simp) h _ _ _ _ _ _ hlength]
          simp

end Call

end Reads

/-! ### Whole scripts -/

/-- **A script whose source is read as nodes has these nodes, up to positions, and no fault.** -/
theorem Script.parse_of_reads {source : String} {nodes : List Node}
    (h : Reads .top 0 source.toList nodes) :
    (Script.parse source).faults = []
      ∧ Node.shapesOf (Script.parse source).nodes = gather nodes := by
  have hread : (Assembly.ofTokens (scan source.toList)).shape
      = ⟨nodes.foldl pushNode [], [], []⟩ := by
    have htake := h Assembly.empty [] rfl rfl
    rw [List.append_nil, tokens_nil] at htake
    rw [Assembly.shape_ofTokens_scan, htake]
    rfl
  generalize hfinal : Assembly.ofTokens (scan source.toList) = a at hread
  obtain ⟨nodes', frames, faults⟩ := a
  simp only [Assembly.shape, Assembly.mk.injEq, List.map_eq_nil_iff] at hread
  obtain ⟨hnodes, rfl, rfl⟩ := hread
  obtain ⟨hfaults, hparse⟩ := parse_of_ofTokens hfinal
  rw [hparse, Node.shapesOf_reverse, hnodes]
  exact ⟨hfaults, rfl⟩

end TitleScript
