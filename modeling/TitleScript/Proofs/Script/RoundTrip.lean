import TitleScript.Proofs.Script.NormalForm
import TitleScript.Proofs.Script.Reading
import TitleScript.Proofs.Script.Writing

/-!
# Reading a tree back

A tree is printed with a backslash in front of each character of its literal text that would mean
something where it stands. Reading the printed source gives the tree again, without a fault, if
the tree is in normal form; and only those trees can be read at all.

The proof follows the tree. A node in normal form, with room for so many levels, is printed as a
source that reads as its shape wherever so many levels are left, whatever comes before it and
behind it.

## Main definitions

* `Node.escape` — literal text with a backslash where one is needed
* `Node.print` — the source of a tree

## Main results

* `Node.Normal.reads_write` — what a printed node is read as
* `parse_print` — reading undoes printing
-/

namespace TitleScript

namespace Node

/-- Literal text with a backslash in front of each character that means something at the place. -/
def escape (place : Place) (text : List Char) : List Char :=
  text.flatMap fun c => if place.admits c then [c] else ['\\', c]

/-- The source of a tree, its literal text with a backslash where one is needed. -/
def print (nodes : List Node) : String := String.ofList (writeAll escape .top nodes)

theorem print_append (nodes more : List Node) :
    print (nodes ++ more) = print nodes ++ print more := by
  rw [print, writeAll_eq, List.flatMap_append, String.ofList_append, print, print, writeAll_eq,
    writeAll_eq]

theorem print_singleton (node : Node) : print [node] = String.ofList (node.write escape .top) := by
  rw [print, writeAll, writeAll, List.append_nil]

/-! ### Shapes in normal form -/

theorem merged_shapesOf {nodes : List Node} : Merged (shapesOf nodes) ↔ Merged nodes := by
  rw [shapesOf_eq_relocateAll, merged_relocateAll]

end Node

/-- A sequence in which no literal text is split is not changed by merging. -/
theorem gather_of_merged {nodes : List Node} (h : Merged nodes) : gather nodes = nodes := by
  rw [gather, foldl_pushNode_of_merged (by simpa using merged_reverse.2 h)]
  simp

theorem gather_shapesOf {nodes : List Node} (h : Merged nodes) :
    gather (Node.shapesOf nodes) = Node.shapesOf nodes :=
  gather_of_merged (Node.merged_shapesOf.2 h)

/-! ### Reading what was printed -/

namespace Reads

variable {place : Place} {depth : Nat}

theorem char (c : Char) :
    Reads place depth (if place.admits c then [c] else ['\\', c])
      [.literal 0 (String.ofList [c])] := by
  split
  · next h => exact .text h
  · exact .escaped c

/-- Text next to text is one text. -/
theorem merge {source : List Char} {text more : String}
    (h : Reads place depth source [.literal 0 text, .literal 0 more]) :
    Reads place depth source [.literal 0 (text ++ more)] :=
  h.congr fun before => pushNode_literal_literal before 0 0 text more

theorem escape {text : List Char} (h : text ≠ []) :
    Reads place depth (Node.escape place text) [.literal 0 (String.ofList text)] := by
  induction text with
  | nil => exact absurd rfl h
  | cons c text ih =>
    rw [Node.escape, List.flatMap_cons]
    cases text with
    | nil => exact (List.append_nil _).symm ▸ char c
    | cons d text =>
      have hrest := ih (List.cons_ne_nil d text)
      have hmerge := ((char c).append hrest).merge
      rwa [← String.ofList_append] at hmerge

/-- A sequence is read node by node. -/
theorem writeAll {nodes : List Node}
    (h : ∀ node ∈ nodes, Reads place depth (node.write Node.escape place) [node.shape]) :
    Reads place depth (Node.writeAll Node.escape place nodes) (Node.shapesOf nodes) := by
  induction nodes with
  | nil => exact .nil
  | cons node nodes ih =>
    obtain ⟨hnode, hnodes⟩ := List.forall_mem_cons.1 h
    exact hnode.append (ih hnodes)

end Reads

/-- **A printed node is read as its shape** where there is room for all its levels. -/
theorem Node.Normal.reads_write {room : Nat} {node : Node} (h : node.Normal room) :
    ∀ {place : Place} {depth : Nat}, depth + room ≤ maxDepth →
      Reads place depth (node.write escape place) [node.shape] := by
  induction h with
  | @literal _ _ text hne =>
    intro place depth _
    have hreads : Reads place depth (escape place text.toList) _ := .escape (by simpa using hne)
    rwa [String.ofList_toList] at hreads
  | @quoted _ _ text htext =>
    intro place depth _
    have hreads : Reads place depth _ _ := .quoted (Token.wellFormed_quoted_toList.2 htext)
    rwa [String.ofList_toList] at hreads
  | @field _ _ name hname =>
    intro place depth _
    rw [← String.ofList_toList (s := name)] at hname
    have hreads : Reads place depth _ _ := .field hname
    rwa [String.ofList_toList] at hreads
  | @fieldList _ _ name hname =>
    intro place depth _
    rw [← String.ofList_toList (s := name)] at hname
    have hreads : Reads place depth _ _ := .fieldList hname
    rwa [String.ofList_toList] at hreads
  | @call room _ name args hname hargs hmerged _ ih =>
    intro place depth hdepth
    have hread : ∀ arg ∈ args,
        Reads .argument (depth + 1) (writeAll escape .argument arg) (shapesOf arg) :=
      fun arg harg => .writeAll fun node hnode => ih arg harg node hnode (by omega)
    rw [← String.ofList_toList (s := name)] at hname
    have hcall : Reads place depth _ _ := .call hname (by omega) hread
    have hshapes : (args.map fun arg => gather (shapesOf arg)) = shapesOfArgs args := by
      rw [shapesOfArgs_eq]
      exact List.map_congr_left fun arg harg => gather_shapesOf (hmerged arg harg)
    rwa [hshapes, Assembly.finishArgs_reverse (shapesOfArgs_ne hargs), String.ofList_toList,
      ← writeEach_eq] at hcall
  | @group room _ content hmerged _ ih =>
    intro place depth hdepth
    have hcontent : Reads .group (depth + 1) _ _ := .writeAll fun node hnode =>
      ih node hnode (by omega)
    have hgroup : Reads place depth _ _ := .group (by omega) hcontent
    rwa [gather_shapesOf hmerged] at hgroup

theorem NormalSequence.reads_print {nodes : List Node} (h : NormalSequence maxDepth nodes) :
    Reads .top 0 (Node.print nodes).toList (Node.shapesOf nodes) := by
  rw [Node.print, String.toList_ofList]
  exact .writeAll fun node hnode => (h.normal node hnode).reads_write (by simp)

/-- **Reading undoes printing.** A tree in normal form is printed as a source that is read without
a fault and, up to positions, as the same tree. -/
theorem parse_print {nodes : List Node} (h : NormalSequence maxDepth nodes) :
    (Script.parse (Node.print nodes)).faults = []
      ∧ Node.shapesOf (Script.parse (Node.print nodes)).nodes = Node.shapesOf nodes := by
  have hparse := Script.parse_of_reads h.reads_print
  rwa [gather_shapesOf h.merged] at hparse

/-- A tree with text that looks like structure, in an argument and in a group inside it. -/
theorem parse_print_call :
    let nodes : List Node :=
      [.call 0 "f" [[.literal 0 "x,(", .group 0 [.literal 0 "a,["]], []], .quoted 0 "\"",
        .literal 0 "\\", .fieldList 0 "n"]
    NormalSequence maxDepth nodes
      ∧ (Script.parse "$f(x\\,\\([a,\\[],)\"\"\\\\%<n>%").faults = []
      ∧ Node.shapesOf (Script.parse "$f(x\\,\\([a,\\[],)\"\"\\\\%<n>%").nodes = nodes := by
  intro nodes
  have hprint : Node.print nodes = "$f(x\\,\\([a,\\[],)\"\"\\\\%<n>%" := by decide
  have hgroup : (Node.group 0 [.literal 0 "a,["]).Normal 63 :=
    .group (.singleton _) (List.forall_mem_singleton.2 (.literal (by decide)))
  have hcall : (Node.call 0 "f" [[.literal 0 "x,(", .group 0 [.literal 0 "a,["]], []]).Normal 64 :=
    .call (by decide +kernel) (by simp) (by simp [Merged, Node.IsLiteral])
      (by simp [hgroup, Node.Normal.literal])
  have h : NormalSequence maxDepth nodes :=
    ⟨by simp [nodes, Merged, Node.IsLiteral], by
      simp only [nodes, List.forall_mem_cons]
      exact ⟨hcall, .quoted (.inl rfl), .literal (by decide), .fieldList (by decide +kernel),
        by simp⟩⟩
  have hparse := parse_print h
  rw [hprint] at hparse
  exact ⟨h, hparse⟩

end TitleScript
