import TitleScript.Proofs.Script.Preorder
import TitleScript.Proofs.Script.Step
import TitleScript.Proofs.Text.Position

/-!
# Source positions

The position of a node is where its source begins: the source of a script, from there on, starts
with the percent sign and the name of a field, with the dollar sign of a call, and so on. Literal
text can be merged from several parts and can be escaped, so all that is known of its source is how
it begins.

While a source is being read there are constructs that are not nodes yet, but their beginnings are
known. A mark is a position with the texts that can stand there, and the marks of a tree under
assembly, in source order, are those of its nodes and of its frames. Every step adds at most one
mark, behind all others. Merging literal text removes one, and a group that turns out not to be
closed keeps its mark as literal text, or loses it to literal text before it. So positions stay in
order however the tree is put together.

## Main definitions

* `Node.beginnings` — the texts that the source of a node can begin with
* `Mark`, `Marked` — beginnings in a source, and when a list of them is right
* `Assembly.marks` — the beginnings of all that has been read

## Main results

* `Marked.pushNode` — merging literal text keeps marks right
* `Marked.of_effect` — so does every step
* `preorder_nodes_parse` — positions in a tree, and those of the warnings about it
-/

namespace TitleScript

open Text (StandsAt byteLength)

/-! ### Beginnings -/

/-- The texts that the source of a node can begin with. The source of literal text begins with its
first character or with a backslash in front of it. -/
def Node.beginnings : Node → List (List Char)
  | literal _ text => text.toList.head?.toList.flatMap fun c => [[c], ['\\', c]]
  | quoted _ text => [(Token.quoted text.toList).spelling]
  | field _ name => ['%' :: name.toList ++ ['%']]
  | fieldList _ name => ['%' :: '<' :: name.toList ++ ['>', '%']]
  | call _ name _ => ['$' :: name.toList ++ ['(']]
  | group _ _ => [['[']]

theorem Node.mem_beginnings_literal {position : Nat} {text : String} {beginning : List Char} :
    beginning ∈ (literal position text).beginnings
      ↔ ∃ c, text.toList.head? = some c ∧ (beginning = [c] ∨ beginning = ['\\', c]) := by
  simp [beginnings]

/-- Text that goes on begins as before. -/
theorem Node.beginnings_literal_subset (position position' : Nat) (text more : String) :
    (literal position text).beginnings ⊆ (literal position' (text ++ more)).beginnings := by
  intro beginning hbeginning
  obtain ⟨c, hc, hcases⟩ := mem_beginnings_literal.1 hbeginning
  exact mem_beginnings_literal.2 ⟨c, by simp [hc], hcases⟩

theorem Node.ne_nil_of_mem_beginnings {node : Node} {text : List Char}
    (h : text ∈ node.beginnings) : text ≠ [] := by
  cases node with
  | literal p t =>
    obtain ⟨c, -, rfl | rfl⟩ := mem_beginnings_literal.1 h
    · exact List.cons_ne_nil _ _
    · exact List.cons_ne_nil _ _
  | quoted p t =>
    rw [beginnings, List.mem_singleton, Token.spelling] at h
    rw [h]
    split <;> exact List.cons_ne_nil _ _
  | _ =>
    rw [List.mem_singleton.1 h]
    exact List.cons_ne_nil _ _

/-- The beginning of a construct: where it is, and the texts that can stand there. -/
structure Mark where
  position : Nat
  beginnings : List (List Char)

/-- The beginning of a node. -/
def Node.mark (node : Node) : Mark := ⟨node.position, node.beginnings⟩

/-- The beginnings of all nodes in a sequence. -/
def marksOf (nodes : List Node) : List Mark := (Node.preorderOf nodes).map Node.mark

@[simp] theorem marksOf_nil : marksOf [] = [] := rfl

@[simp] theorem marksOf_append (nodes more : List Node) :
    marksOf (nodes ++ more) = marksOf nodes ++ marksOf more := by
  rw [marksOf, Node.preorderOf_append, List.map_append, marksOf, marksOf]

theorem marksOf_call (position : Nat) (name : String) (args : List (List Node)) :
    marksOf [.call position name args]
      = ⟨position, ['$' :: name.toList ++ ['(']]⟩ :: args.flatMap marksOf := by
  rw [marksOf, Node.preorderOf_singleton, Node.preorder, Node.preorderOfArgs_eq, List.map_cons,
    List.map_flatMap]
  rfl

theorem marksOf_group (position : Nat) (content : List Node) :
    marksOf [.group position content] = ⟨position, [['[']]⟩ :: marksOf content := by
  rw [marksOf, Node.preorderOf_singleton, Node.preorder, List.map_cons]
  rfl

/-! ### Marks that are right -/

/-- The marks of all constructs of a source, in source order. -/
structure Marked (source : List Char) (marks : List Mark) : Prop where
  /-- No two constructs begin at one position. -/
  increasing : marks.Pairwise fun m m' => m.position < m'.position
  /-- The source of each construct begins where the mark says. -/
  stands : ∀ m ∈ marks, ∃ text ∈ m.beginnings, text ≠ [] ∧ StandsAt source m.position text
  /-- Nothing comes before the first construct. -/
  first : source ≠ [] → marks.head?.map Mark.position = some 0

namespace Marked

variable {source more : List Char} {marks before behind : List Mark} {m m' : Mark}

theorem nil : Marked [] [] := ⟨.nil, by simp, fun h => absurd rfl h⟩

theorem position_lt (h : Marked source marks) (hm : m ∈ marks) :
    m.position < byteLength source := by
  obtain ⟨text, -, hne, hstands⟩ := h.stands m hm
  exact hstands.lt hne

/-- A token that begins no construct. -/
theorem append (h : Marked source marks) (hne : source ≠ []) (more : List Char) :
    Marked (source ++ more) marks := by
  refine ⟨h.increasing, fun m hm => ?_, fun _ => h.first hne⟩
  obtain ⟨text, htext, hne, hstands⟩ := h.stands m hm
  exact ⟨text, htext, hne, hstands.append more⟩

/-- A token that begins a construct. -/
theorem snoc (h : Marked source marks) (hposition : m.position = byteLength source)
    (hmore : ∃ text ∈ m.beginnings, text ≠ [] ∧ text <+: more) :
    Marked (source ++ more) (marks ++ [m]) := by
  refine ⟨?_, ?_, fun _ => ?_⟩
  · refine List.pairwise_append.2 ⟨h.increasing, List.pairwise_singleton _ m, ?_⟩
    intro m' hm' m'' hm''
    rw [List.mem_singleton.1 hm'', hposition]
    exact h.position_lt hm'
  · intro m' hm'
    rcases List.mem_append.1 hm' with hm' | hm'
    · obtain ⟨text, htext, hne, hstands⟩ := h.stands m' hm'
      exact ⟨text, htext, hne, hstands.append more⟩
    · obtain rfl := List.mem_singleton.1 hm'
      obtain ⟨text, htext, hne, rest, rfl⟩ := hmore
      have hstands := Text.standsAt_byteLength source (text ++ rest)
      exact ⟨text, htext, hne, by rw [hposition]; exact hstands.left⟩
  · -- the new mark is the first only if nothing has been read
    by_cases hsource : source = []
    · subst hsource
      cases marks with
      | nil => simp [hposition]
      | cons m' marks => exact absurd (h.position_lt List.mem_cons_self) (Nat.not_lt_zero _)
    · have hfirst := h.first hsource
      cases marks with
      | nil => simp at hfirst
      | cons m' marks => exact hfirst

/-- A mark that allows more texts at the same position. -/
theorem weaken (h : Marked source (before ++ m :: behind)) (hposition : m'.position = m.position)
    (hbeginnings : m.beginnings ⊆ m'.beginnings) : Marked source (before ++ m' :: behind) := by
  refine ⟨?_, ?_, fun hne => ?_⟩
  · have hincreasing := h.increasing
    rw [List.pairwise_append, List.pairwise_cons] at hincreasing ⊢
    simpa only [List.mem_cons, forall_eq_or_imp, hposition] using hincreasing
  · intro m'' hm''
    rcases List.mem_append.1 hm'' with hm'' | hm''
    · exact h.stands m'' (List.mem_append_left _ hm'')
    · rcases List.mem_cons.1 hm'' with rfl | hm''
      · obtain ⟨text, htext, hstands⟩ := h.stands m (by simp)
        exact ⟨text, hbeginnings htext, by rwa [hposition]⟩
      · exact h.stands m'' (by simp [hm''])
  · have hfirst := h.first hne
    cases before with
    | nil => simpa [hposition] using hfirst
    | cons m'' before => exact hfirst

/-- A mark that is not the first can be left out. -/
theorem drop (h : Marked source (before ++ m :: m' :: behind)) :
    Marked source (before ++ m :: behind) := by
  have hsub : List.Sublist (before ++ m :: behind) (before ++ m :: m' :: behind) :=
    ((List.sublist_cons_self m' behind).cons_cons m).append_left before
  refine ⟨h.increasing.sublist hsub, fun m'' hm'' => h.stands m'' (hsub.subset hm''), fun hne => ?_⟩
  have hfirst := h.first hne
  cases before with
  | nil => exact hfirst
  | cons m'' before => exact hfirst

/-- **Merging literal text keeps marks right.** The merged text has the mark of its first part. -/
theorem pushNode {nodes : List Node} {node : Node}
    (h : Marked source (before ++ (marksOf nodes.reverse ++ (marksOf [node] ++ behind)))) :
    Marked source (before ++ (marksOf (pushNode nodes node).reverse ++ behind)) := by
  obtain ⟨position, text, rest, position', more, rfl, rfl, heq⟩ | ⟨-, heq⟩ :=
    pushNode_cases nodes node
  · rw [heq, List.reverse_cons, marksOf_append]
    rw [List.reverse_cons, marksOf_append] at h
    have hboth : Marked source (before ++ marksOf rest.reverse
        ++ (Node.literal position text).mark :: (Node.literal position' more).mark :: behind) := by
      simpa [marksOf, Node.preorder] using h
    have hweaken : Marked source (before ++ marksOf rest.reverse
        ++ (Node.literal position (text ++ more)).mark :: behind) :=
      hboth.drop.weaken rfl (Node.beginnings_literal_subset position position text more)
    simpa [marksOf, Node.preorder] using hweaken
  · rw [heq, List.reverse_cons, marksOf_append, List.append_assoc]
    exact h

theorem foldl_pushNode {nodes more : List Node}
    (h : Marked source (before ++ (marksOf nodes.reverse ++ marksOf more))) :
    Marked source (before ++ marksOf (more.foldl TitleScript.pushNode nodes).reverse) := by
  induction more generalizing nodes with
  | nil => simpa using h
  | cons node more ih =>
    rw [← List.singleton_append, marksOf_append] at h
    exact ih h.pushNode

end Marked

/-! ### Trees under assembly -/

/-- The source that opened a frame. -/
def Opening.spelling : Opening → List Char
  | group => ['[']
  | call name _ _ => '$' :: name.toList ++ ['(']

theorem Opening.spelling_ne_nil (opening : Opening) : opening.spelling ≠ [] := by
  cases opening <;> exact List.cons_ne_nil _ _

/-- The beginning of the construct that a frame waits for. -/
def Frame.mark (f : Frame) : Mark := ⟨f.position, [f.opening.spelling]⟩

/-- The beginnings in the arguments that a frame has so far. -/
def Opening.marks : Opening → List Mark
  | group => []
  | call _ args _ => args.reverse.flatMap marksOf

/-- The beginnings in front of the sequence inside the frames, which are given innermost first. -/
def marksBefore : List Frame → List Mark
  | [] => []
  | frame :: frames =>
    marksBefore frames ++ (marksOf frame.outer.reverse ++ frame.mark :: frame.opening.marks)

theorem marksBefore_call (name : String) (args : List (List Node)) (n start : Nat)
    (outer : List Node) (frames : List Frame) :
    marksBefore (⟨.call name args n, start, outer⟩ :: frames)
      = marksBefore frames ++ (marksOf outer.reverse
        ++ ⟨start, ['$' :: name.toList ++ ['(']]⟩ :: args.reverse.flatMap marksOf) := rfl

theorem marksBefore_group (start : Nat) (outer : List Node) (frames : List Frame) :
    marksBefore (⟨.group, start, outer⟩ :: frames)
      = marksBefore frames ++ (marksOf outer.reverse ++ [⟨start, [['[']]⟩]) := rfl

namespace Assembly

/-- The beginnings of all that has been read, in source order. -/
def marks (a : Assembly) : List Mark := marksBefore a.frames ++ marksOf a.nodes.reverse

theorem flatMap_marksOf_finishArgs (arg : List Node) (args : List (List Node)) :
    (finishArgs (arg :: args)).flatMap marksOf = args.reverse.flatMap marksOf ++ marksOf arg := by
  by_cases h : arg :: args = [[]]
  · obtain ⟨rfl, rfl⟩ := List.cons.inj h
    rfl
  · rw [finishArgs_of_ne h, List.reverse_cons, List.flatMap_append, List.flatMap_singleton]

end Assembly

namespace Marked

open Assembly

variable {source : List Char} {a a' : Assembly} {t : Token}

/-- A node that the next token makes on its own. -/
theorem push {node : Node} {spelling : List Char} (h : Marked source a.marks)
    (hnode : node.preorder = [node]) (hposition : node.position = byteLength source)
    (hspelling : ∃ text ∈ node.beginnings, text <+: spelling) :
    Marked (source ++ spelling) (a.push node).marks := by
  obtain ⟨text, htext, hbegins⟩ := hspelling
  have hsnoc := h.snoc (m := node.mark) hposition
    ⟨text, htext, Node.ne_nil_of_mem_beginnings htext, hbegins⟩
  have hmarks : marksOf [node] = [node.mark] := by
    rw [marksOf, Node.preorderOf_singleton, hnode, List.map_singleton]
  rw [Assembly.marks, ← List.append_nil (marksOf (a.push node).nodes.reverse)]
  refine pushNode ?_
  rwa [hmarks, List.append_nil, ← List.append_assoc]

theorem pushText {text : List Char} (h : Marked source a.marks) (hne : text ≠ []) :
    Marked (source ++ text) (a.pushText (byteLength source) text).marks := by
  obtain ⟨c, cs, rfl⟩ := List.exists_cons_of_ne_nil hne
  refine h.push rfl rfl ⟨[c], ?_, cs, rfl⟩
  exact Node.mem_beginnings_literal.2 ⟨c, by simp, .inl rfl⟩

/-- The mark of a token that makes a node on its own. -/
theorem node {node : Node} (h : Marked source a.marks)
    (hnode : t.node? (byteLength source) = some node) :
    Marked (source ++ t.spelling) (a.push node).marks := by
  cases t with
  | escaped c =>
    obtain rfl := Option.some.inj hnode
    refine h.push rfl rfl ⟨['\\', c], ?_, List.prefix_rfl⟩
    exact Node.mem_beginnings_literal.2 ⟨c, by simp, .inr rfl⟩
  | quoted text =>
    obtain rfl := Option.some.inj hnode
    refine h.push rfl rfl ⟨_, List.mem_singleton_self _, ?_⟩
    simpa only [String.toList_ofList] using List.prefix_rfl
  | field name | fieldList name =>
    obtain rfl := Option.some.inj hnode
    refine h.push rfl rfl ⟨_, List.mem_singleton_self _, ?_⟩
    simpa only [String.toList_ofList, Token.spelling] using List.prefix_rfl
  | _ => simp [Token.node?] at hnode

/-- A construct that the next token opens. -/
theorem openFrame (h : Marked source a.marks) (opening : Opening) (hmarks : opening.marks = []) :
    Marked (source ++ opening.spelling)
      (Assembly.marks ⟨[], ⟨opening, byteLength source, a.nodes⟩ :: a.frames, a.faults⟩) := by
  have hsnoc := h.snoc (m := Frame.mark ⟨opening, byteLength source, a.nodes⟩) rfl
    ⟨opening.spelling, List.mem_singleton_self _, opening.spelling_ne_nil, List.prefix_rfl⟩
  simpa [Assembly.marks, marksBefore, hmarks] using hsnoc

section Close

variable {name : String} {args : List (List Node)} {n start : Nat} {nodes outer : List Node}
  {frames : List Frame}

/-- A call begins where its frame began. -/
theorem closeCall
    (h : Marked source
      (marksBefore (⟨.call name args n, start, outer⟩ :: frames) ++ marksOf nodes.reverse)) :
    Marked source (marksBefore frames ++ marksOf (TitleScript.pushNode outer
      (.call start name (finishArgs (nodes.reverse :: args)))).reverse) := by
  rw [← List.append_nil (marksOf (TitleScript.pushNode _ _).reverse)]
  refine pushNode ?_
  rw [marksOf_call, flatMap_marksOf_finishArgs, List.append_nil]
  rw [marksBefore_call] at h
  simpa using h

/-- A group begins where its frame began. -/
theorem closeGroup
    (h : Marked source
      (marksBefore (⟨.group, start, outer⟩ :: frames) ++ marksOf nodes.reverse)) :
    Marked source (marksBefore frames
      ++ marksOf (TitleScript.pushNode outer (.group start nodes.reverse)).reverse) := by
  rw [← List.append_nil (marksOf (TitleScript.pushNode _ _).reverse)]
  refine pushNode ?_
  rw [marksOf_group, List.append_nil]
  rw [marksBefore_group] at h
  simpa using h

/-- A group that is not closed begins with a bracket that is literal text. -/
theorem spliceGroup
    (h : Marked source
      (marksBefore (⟨.group, start, outer⟩ :: frames) ++ marksOf nodes.reverse)) :
    Marked source (marksBefore frames ++ marksOf
      (nodes.reverse.foldl TitleScript.pushNode
        (TitleScript.pushNode outer (.literal start "["))).reverse) := by
  have hbracket : [['[']] ⊆ (Node.literal start "[").mark.beginnings := by
    show [['[']] ⊆ [['['], ['\\', '[']]
    simp
  have hweaken : Marked source (marksBefore frames ++ marksOf outer.reverse
      ++ (Node.literal start "[").mark :: marksOf nodes.reverse) := by
    refine weaken (m := ⟨start, [['[']]⟩) ?_ rfl hbracket
    simpa [marksBefore_group] using h
  refine foldl_pushNode (pushNode ?_)
  simpa [marksOf, Node.preorder] using hweaken

end Close

/-- **Every step keeps marks right.** -/
theorem of_effect (h : Marked source a.marks) (ht : t.WellFormed)
    (heffect : Effect a (byteLength source) t a') : Marked (source ++ t.spelling) a'.marks := by
  -- where a frame is open, something has been read
  have hread {frame : Frame} {frames : List Frame} (heq : a.frames = frame :: frames) :
      source ≠ [] := by
    rintro rfl
    have hmem : frame.mark ∈ a.marks := by simp [Assembly.marks, heq, marksBefore]
    exact absurd (h.position_lt hmem) (Nat.not_lt_zero _)
  cases heffect with
  | node hnode => exact h.node hnode
  | text hc => exact h.pushText (List.cons_ne_nil _ _)
  | openParenthesis heq =>
    have hpush := h.pushText (List.cons_ne_nil '(' [])
    simp only [Assembly.marks, Assembly.pushText, Assembly.push, heq, marksBefore_call] at hpush ⊢
    exact hpush
  | closeParenthesis heq =>
    have hpush := h.pushText (List.cons_ne_nil ')' [])
    simp only [Assembly.marks, Assembly.pushText, Assembly.push, heq, marksBefore_call] at hpush ⊢
    exact hpush
  | nextArgument heq =>
    have happend := h.append (hread heq) (Token.plain ',').spelling
    rw [Assembly.marks, heq] at happend
    simpa [Assembly.marks, marksBefore_call] using happend
  | closeCall heq =>
    have happend := h.append (hread heq) (Token.plain ')').spelling
    rw [Assembly.marks, heq] at happend
    exact happend.closeCall
  | @openCall name hname hlt =>
    have hopen := h.openFrame (.call (String.ofList name) [] 0) rfl
    rwa [Opening.spelling, String.toList_ofList] at hopen
  | openGroup hlt => exact h.openFrame .group rfl
  | closeGroup heq =>
    have happend := h.append (hread heq) Token.groupEnd.spelling
    rw [Assembly.marks, heq] at happend
    exact happend.closeGroup
  | fault _ _ _ => exact h.pushText (Token.spelling_ne_nil ht)

/-- Closing what the source left open keeps marks right. -/
theorem unwind {nodes : List Node} {frames : List Frame}
    (h : Marked source (marksBefore frames ++ marksOf nodes.reverse)) (faults : List Fault) :
    Marked source (marksOf (Assembly.unwind nodes faults frames).1.reverse) := by
  induction frames generalizing nodes faults with
  | nil => exact h
  | cons frame frames ih =>
    obtain ⟨opening, start, outer⟩ := frame
    cases opening with
    | group => exact ih h.spliceGroup _
    | call name args n => exact ih h.closeCall _

end Marked

/-- The marks of the tree of a source are right. -/
theorem marked_nodes_parse (source : String) :
    Marked source.toList (marksOf (Script.parse source).nodes) := by
  have hrun : Marked source.toList (Assembly.ofTokens (Token.scan source.toList)).marks :=
    Assembly.ofTokens_scan_induction (motive := fun past a => Marked past a.marks) .nil
      (fun h ht heffect => h.of_effect ht heffect) source.toList
  rw [Script.nodes_parse]
  exact hrun.unwind _

/-! ### Positions of a script -/

/-- The source of the node begins at its position. -/
def Node.BeginsIn (source : String) (node : Node) : Prop :=
  ∃ text ∈ node.beginnings, StandsAt source.toList node.position text

/-- **Source positions are exact.** Going through the tree of a source in source order, the
positions strictly increase from the beginning of the source, the source of each node begins at its
position, and the positions of the warnings strictly increase as well. -/
theorem preorder_nodes_parse (source : String) :
    ((Node.preorderOf (Script.parse source).nodes).Pairwise fun a b => a.position < b.position)
      ∧ (source ≠ "" →
        (Node.preorderOf (Script.parse source).nodes).head?.map Node.position = some 0)
      ∧ (∀ node ∈ Node.preorderOf (Script.parse source).nodes,
        node.position < source.utf8ByteSize ∧ node.BeginsIn source)
      ∧ ∀ r : Registry,
        ((Script.parse source).warnings r).Pairwise fun v w => v.position < w.position := by
  obtain ⟨hincreasing, hstands, hfirst⟩ := marked_nodes_parse source
  rw [marksOf, List.pairwise_map] at hincreasing
  refine ⟨hincreasing, fun hne => ?_, fun node hnode => ?_, fun r => ?_⟩
  · have hhead := hfirst (by simpa using hne)
    rwa [marksOf, List.head?_map, Option.map_map] at hhead
  · obtain ⟨text, htext, hne, htextStands⟩ := hstands node.mark (List.mem_map_of_mem hnode)
    refine ⟨?_, text, htext, htextStands⟩
    rw [Text.utf8ByteSize_eq]
    exact htextStands.lt hne
  · exact Script.pairwise_warnings hincreasing r

/-- A group that is not closed, whose bracket is merged into the text before it, around a field
behind a letter of two bytes. -/
theorem preorder_nodes_parse_spliced :
    "é[%<n>%\\%" ≠ ""
      ∧ Node.preorderOf (Script.parse "é[%<n>%\\%").nodes
        = [.literal 0 "é[", .fieldList 3 "n", .literal 8 "%"]
      ∧ (Node.preorderOf (Script.parse "é[%<n>%\\%").nodes).head?.map Node.position = some 0
      ∧ 3 < "é[%<n>%\\%".utf8ByteSize ∧ (Node.fieldList 3 "n").BeginsIn "é[%<n>%\\%" := by
  have hname : isFieldName ['n'] = true := by decide +kernel
  have hchars : (['<', 'n', '>', '%'].map isFieldChar) = [true, true, true, false] := by decide
  have hscan : Token.scan "é[%<n>%\\%".toList
      = [(0, .plain 'é'), (2, .groupStart), (3, .fieldList ['n']), (8, .escaped '%')] := by
    simp only [List.map_cons, List.map_nil, List.cons.injEq, and_true] at hchars
    simp [Token.scan_eq, Token.tokens_cons, Token.read, Token.readField, Token.readEscaped,
      Token.ofFieldText, Token.insideAngles?, hname, hchars, Token.withPositions, Token.spelling]
    decide
  have hnodes : Node.preorderOf (Script.parse "é[%<n>%\\%").nodes
      = [.literal 0 "é[", .fieldList 3 "n", .literal 8 "%"] := by
    rw [Script.nodes_parse, hscan]
    rfl
  have hne : "é[%<n>%\\%" ≠ "" := by decide
  obtain ⟨-, hfirst, hbegins, -⟩ := preorder_nodes_parse "é[%<n>%\\%"
  exact ⟨hne, hnodes, hfirst hne, hbegins (.fieldList 3 "n") (by simp [hnodes])⟩

end TitleScript
