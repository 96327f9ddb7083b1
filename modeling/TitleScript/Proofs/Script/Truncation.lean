import TitleScript.Proofs.Script.Composition
import TitleScript.Proofs.Script.Position
import TitleScript.Proofs.Script.RoundTrip

/-!
# Sources that are cut off

A source that breaks off inside its last construct has one fault, and nothing in front of the
construct is read differently. A call keeps the arguments it has, as if it had been closed, and a
group turns into a bracket and its content. Quoted text and fields become text as far as their
source goes.

A source without a fault has a last token, and before that one step of the assembly is missing. If
that step completes a call or a group, then this was the only thing open. So what the source was
without the last token is known, and so is what its end makes of it.

## Main definitions

* `Node.printCut` — the source of a sequence without its last character
* `Node.CutOff` — what is left of a construct that is cut off

## Main results

* `Script.exists_last_step` — the last token of a source and what it does
* `Assembly.Effect.eq_of_singleton` — what can be done last if a single node is left
* `parse_printCut` — one fault, and nothing before it
-/

namespace TitleScript

open Token

/-- The script of a source that is one faulty token. -/
theorem Script.parse_of_tokens_faulty {cs : List Char} {cause : Fault.Cause}
    (h : tokens cs = [faulty cause cs]) :
    (parse (String.ofList cs)).faults = [⟨0, String.ofList (excerpt cause cs), cause⟩]
      ∧ (parse (String.ofList cs)).nodes = [.literal 0 (String.ofList cs)] := by
  refine parse_of_finish ?_
  rw [String.toList_ofList, scan_eq, h]
  rfl

/-! ### The last step -/

/-- A source without a fault is a source and one more token, whose effect leaves the tree. -/
theorem Script.exists_last_step {source : String} (h : (parse source).faults = [])
    (hne : source ≠ "") :
    ∃ past t, source.toList = past ++ t.spelling
      ∧ Assembly.Effect (Assembly.ofTokens (scan past)) (Text.byteLength past) t
          ⟨(parse source).nodes.reverse, [], []⟩ := by
  have hclean : ∀ t ∈ tokens source.toList, t.WellFormed ∧ ¬t.IsFaulty := fun t ht =>
    ⟨wellFormed_of_mem_tokens ht, not_isFaulty_of_mem_tokens h t ht⟩
  have hspelling := flatMap_spelling_tokens source.toList
  have hall := ofTokens_scan_eq h
  rw [scan_eq] at hall
  obtain hnil | ⟨ts, t, hts⟩ := List.eq_nil_or_concat (tokens source.toList)
  · rw [hnil] at hspelling
    exact absurd (String.toList_inj.1 hspelling.symm) hne
  · rw [hts, List.concat_eq_append] at hspelling hall hclean
    obtain ⟨hinit, hlast⟩ := List.forall_mem_append.1 hclean
    refine ⟨ts.flatMap spelling, t, by simpa using hspelling.symm, ?_⟩
    rw [withPositions_append, Assembly.ofTokens, List.foldl_append, Nat.zero_add] at hall
    rw [scan_eq, tokens_flatMap_spelling hinit, ← hall]
    exact Assembly.effect_step (hlast t (List.mem_singleton_self t)).1

namespace Assembly

/-- If the last step leaves a single node that has parts, then it closed the only call or the only
group that was open. -/
theorem Effect.eq_of_singleton {a : Assembly} {position : Nat} {t : Token} {node : Node}
    (h : Effect a position t ⟨[node], [], []⟩) (hnesting : node.nesting ≠ 0) :
    (∃ start name args nodes, t = plain ')' ∧ a = ⟨nodes, [⟨.call name args 0, start, []⟩], []⟩
        ∧ node = .call start name (finishArgs (nodes.reverse :: args)))
      ∨ (∃ start nodes, t = groupEnd ∧ a = ⟨nodes, [⟨.group, start, []⟩], []⟩
          ∧ node = .group start nodes.reverse) := by
  have hliteral : ¬node.IsLiteral := by
    intro hliteral
    cases node <;> first | exact hnesting rfl | exact hliteral
  have hpush {nodes : List Node} {node' : Node} (hnode : node'.nesting = 0) :
      [node] ≠ pushNode nodes node' := by
    intro heq
    obtain ⟨-, rfl⟩ | ⟨-, hlit⟩ := eq_of_pushNode_eq_singleton heq.symm
    · exact hnesting hnode
    · exact hliteral hlit
  obtain ⟨nodes, frames, faults⟩ := a
  generalize heq : (⟨[node], [], []⟩ : Assembly) = after at h
  cases h with
  | node hnode => exact absurd (Assembly.mk.inj heq).1 (hpush (Token.nesting_of_node? hnode))
  | text _ => exact absurd (Assembly.mk.inj heq).1 (hpush rfl)
  | openParenthesis _ | closeParenthesis _ | nextArgument _ | openCall _ _ | openGroup _ =>
    -- each of these leaves a frame
    obtain ⟨-, hframes, -⟩ := Assembly.mk.inj heq
    cases hframes
  | @closeCall name args start outer frames hframes =>
    obtain ⟨hnodes, rfl, rfl⟩ := Assembly.mk.inj heq
    obtain ⟨rfl, rfl⟩ | ⟨hlit, -⟩ := eq_of_pushNode_eq_singleton hnodes.symm
    · obtain rfl : frames = _ := hframes
      exact .inl ⟨start, name, args, nodes, rfl, rfl, rfl⟩
    · exact absurd hlit id
  | @closeGroup start outer frames hframes =>
    obtain ⟨hnodes, rfl, rfl⟩ := Assembly.mk.inj heq
    obtain ⟨rfl, rfl⟩ | ⟨hlit, -⟩ := eq_of_pushNode_eq_singleton hnodes.symm
    · obtain rfl : frames = _ := hframes
      exact .inr ⟨start, nodes, rfl, rfl, rfl⟩
    · exact absurd hlit id
  | fault _ _ _ =>
    obtain ⟨-, -, hfaults⟩ := Assembly.mk.inj heq
    cases hfaults

end Assembly

/-! ### Constructs that are cut off -/

namespace Node

/-- The source of a sequence without its last character. -/
def printCut (nodes : List Node) : String := String.ofList (print nodes).toList.dropLast

/-- How a construct is read when the last character of its source is missing: the cause of the
fault, the source that the fault is about, and what stands in the place of the construct. -/
inductive CutOff : Node → Fault.Cause → String → List Node → Prop
  | call {position name args} :
      CutOff (.call position name args) .unterminatedCall ("$" ++ name ++ "(")
        [.call position name args]
  | group {position content} :
      CutOff (.group position content) .unterminatedGroup "["
        (joinSequences [.literal position "["] content)
  | quoted {position text} :
      CutOff (.quoted position text) .unterminatedQuote "\""
        [.literal position (printCut [.quoted position text])]
  | field {position name} :
      CutOff (.field position name) .unterminatedField (printCut [.field position name])
        [.literal position (printCut [.field position name])]
  | fieldList {position name} :
      CutOff (.fieldList position name) .unterminatedField (printCut [.fieldList position name])
        [.literal position (printCut [.fieldList position name])]

/-- A node in normal form is read back from its source as a single node at the beginning. -/
theorem Normal.exists_parse_print {node : Node} (h : node.Normal maxDepth) :
    ∃ node', (Script.parse (print [node])).faults = [] ∧ print [node] ≠ ""
      ∧ (Script.parse (print [node])).nodes = [node'] ∧ node'.shape = node.shape
      ∧ node'.position = 0 := by
  have hsequence : NormalSequence maxDepth [node] :=
    ⟨.singleton _, List.forall_mem_singleton.2 h⟩
  obtain ⟨hfaults, hshapes⟩ := Script.parse_of_reads hsequence.reads_print
  rw [gather_shapesOf hsequence.merged, shapesOf_eq, shapesOf_eq,
    List.map_singleton, List.map_eq_singleton_iff] at hshapes
  obtain ⟨node', hnodes, hshape⟩ := hshapes
  have hne : print [node] ≠ "" := by
    intro hempty
    rw [hempty, Script.nodes_parse, String.toList_empty, scan_eq, tokens_nil] at hnodes
    cases hnodes
  refine ⟨node', hfaults, hne, hnodes, hshape, ?_⟩
  have hfirst := (marked_nodes_parse (print [node])).first (by simpa using hne)
  rw [hnodes, marksOf, preorderOf_singleton] at hfirst
  cases node' <;> exact Option.some.inj hfirst

/-- Before the last character of its source, a call or a group is a frame at the beginning with
nothing around it. -/
theorem Normal.exists_frame {node : Node} (h : node.Normal maxDepth) (hnesting : node.nesting ≠ 0) :
    (∃ name args nodes, Assembly.ofTokens (scan (printCut [node]).toList)
          = ⟨nodes, [⟨.call name args 0, 0, []⟩], []⟩
        ∧ (Node.call 0 name (Assembly.finishArgs (nodes.reverse :: args))).shape = node.shape)
      ∨ (∃ nodes, Assembly.ofTokens (scan (printCut [node]).toList)
            = ⟨nodes, [⟨.group, 0, []⟩], []⟩
          ∧ (Node.group 0 nodes.reverse).shape = node.shape) := by
  obtain ⟨node', hfaults, hne, hnodes, hshape, hposition⟩ := h.exists_parse_print
  obtain ⟨past, t, hsource, heffect⟩ := Script.exists_last_step hfaults hne
  have hnesting' : node'.nesting ≠ 0 := by
    rwa [← nesting_relocate (fun _ => 0), ← shape_eq, hshape, shape_eq, nesting_relocate]
  have hcut : printCut [node] = String.ofList (past ++ t.spelling).dropLast := by
    rw [printCut, hsource]
  rw [hnodes] at heffect
  obtain ⟨start, name, args, nodes, rfl, ha, rfl⟩ | ⟨start, nodes, rfl, ha, rfl⟩ :=
    heffect.eq_of_singleton hnesting'
  · obtain rfl : start = 0 := hposition
    refine .inl ⟨name, args, nodes, ?_, hshape⟩
    rw [hcut, String.toList_ofList, spelling, List.dropLast_concat, ha]
  · obtain rfl : start = 0 := hposition
    refine .inr ⟨nodes, ?_, hshape⟩
    rw [hcut, String.toList_ofList, spelling, List.dropLast_concat, ha]

/-- A call that is cut off is closed by the end of the source. -/
theorem parse_printCut_call {position : Nat} {name : String} {args : List (List Node)}
    (h : (call position name args).Normal maxDepth) :
    (Script.parse (printCut [call position name args])).faults
        = [⟨0, "$" ++ name ++ "(", .unterminatedCall⟩]
      ∧ shapesOf (Script.parse (printCut [call position name args])).nodes
        = shapesOf [call position name args] := by
  obtain ⟨name', args', nodes, hopen, hshape⟩ | ⟨nodes, -, hshape⟩ :=
    h.exists_frame (Nat.succ_ne_zero _)
  · obtain rfl : name' = name := by
      simp only [shape, call.injEq] at hshape
      exact hshape.2.1
    have hfinish : (Assembly.ofTokens (scan (printCut [call position name' args]).toList)).finish
        = ([call 0 name' (Assembly.finishArgs (nodes.reverse :: args'))],
          [⟨0, "$" ++ name' ++ "(", .unterminatedCall⟩]) := by
      rw [hopen]
      rfl
    obtain ⟨hfaults, hnodes⟩ := Script.parse_of_finish hfinish
    refine ⟨hfaults, ?_⟩
    rw [hnodes, shapesOf, shapesOf, hshape]
    rfl
  · simp [shape] at hshape

/-- A group that is cut off turns into a bracket and its content. -/
theorem parse_printCut_group {position : Nat} {content : List Node}
    (h : (group position content).Normal maxDepth) :
    (Script.parse (printCut [group position content])).faults = [⟨0, "[", .unterminatedGroup⟩]
      ∧ shapesOf (Script.parse (printCut [group position content])).nodes
        = shapesOf (joinSequences [literal position "["] content) := by
  have hmerged : Merged content := by
    cases h with
    | group hmerged _ => exact hmerged
  obtain ⟨_, _, _, -, hshape⟩ | ⟨nodes, hopen, hshape⟩ := h.exists_frame (Nat.succ_ne_zero _)
  · simp [shape] at hshape
  · have hfinish : (Assembly.ofTokens (scan (printCut [group position content]).toList)).finish
        = ((nodes.reverse.foldl pushNode [literal 0 "["]).reverse,
          [⟨0, "[", .unterminatedGroup⟩]) := by
      rw [hopen]
      rfl
    obtain ⟨hfaults, hnodes⟩ := Script.parse_of_finish hfinish
    refine ⟨hfaults, ?_⟩
    have hcontent : shapesOf nodes.reverse = shapesOf content := by
      simpa only [shape, group.injEq, true_and] using hshape
    have hmerged' : Merged nodes.reverse := by
      rw [← merged_shapesOf, hcontent, merged_shapesOf]
      exact hmerged
    rw [hnodes, reverse_foldl_pushNode_eq (.singleton _) hmerged', List.reverse_singleton,
      shapesOf_joinSequences (.singleton _) hmerged', hcontent,
      shapesOf_joinSequences (.singleton _) hmerged]
    rfl

/-- Quoted text without its last quote, or a quote without the one that follows it, is text. -/
theorem parse_printCut_quoted {position : Nat} {text : String}
    (h : (quoted position text).Normal maxDepth) :
    (Script.parse (printCut [quoted position text])).faults = [⟨0, "\"", .unterminatedQuote⟩]
      ∧ (Script.parse (printCut [quoted position text])).nodes
        = [.literal 0 (printCut [quoted position text])] := by
  obtain ⟨rest, hfree, hcut⟩ : ∃ rest, '"' ∉ rest
      ∧ printCut [quoted position text] = String.ofList ('"' :: rest) := by
    rw [printCut, print_singleton, String.toList_ofList, write]
    cases h with
    | quoted htext =>
      obtain rfl | ⟨-, hfree⟩ := htext
      · exact ⟨[], List.not_mem_nil, rfl⟩
      · exact ⟨text.toList, hfree, by rw [spelling_quoted hfree, List.dropLast_concat]⟩
  rw [hcut]
  exact Script.parse_of_tokens_faulty (tokens_unterminatedQuote hfree)

/-- A field without its last percent sign is text. -/
theorem parse_printCut_field {node : Node} {name : List Char}
    (hwrite : node.write escape .top = '%' :: name ++ ['%']) (hname : ∀ c ∈ name, isFieldChar c) :
    (Script.parse (printCut [node])).faults = [⟨0, printCut [node], .unterminatedField⟩]
      ∧ (Script.parse (printCut [node])).nodes = [.literal 0 (printCut [node])] := by
  rw [printCut, print_singleton, String.toList_ofList, hwrite, List.dropLast_concat]
  exact Script.parse_of_tokens_faulty (tokens_unterminatedField hname)

/-- A construct on its own that is cut off. -/
theorem CutOff.parse_printCut_singleton {node : Node} {cause : Fault.Cause} {excerpt : String}
    {rest : List Node} (h : node.CutOff cause excerpt rest) (hnode : node.Normal maxDepth) :
    (Script.parse (printCut [node])).faults = [⟨0, excerpt, cause⟩]
      ∧ shapesOf (Script.parse (printCut [node])).nodes = shapesOf rest := by
  cases h with
  | call => exact parse_printCut_call hnode
  | group => exact parse_printCut_group hnode
  | quoted =>
    obtain ⟨hfaults, hnodes⟩ := parse_printCut_quoted hnode
    exact ⟨hfaults, by rw [hnodes]; rfl⟩
  | @field position name =>
    have hchars : ∀ c ∈ name.toList, isFieldChar c := by
      cases hnode with
      | field hname => exact List.all_eq_true.1 (Bool.and_eq_true_iff.1 hname).2
    have hwrite : (Node.field position name).write escape .top = '%' :: name.toList ++ ['%'] := rfl
    obtain ⟨hfaults, hnodes⟩ := parse_printCut_field hwrite hchars
    exact ⟨hfaults, by rw [hnodes]; rfl⟩
  | @fieldList position name =>
    have hchars : ∀ c ∈ name.toList, isFieldChar c := by
      cases hnode with
      | fieldList hname => exact List.all_eq_true.1 (Bool.and_eq_true_iff.1 hname).2
    have hwrite : (Node.fieldList position name).write escape .top
        = '%' :: ('<' :: name.toList ++ ['>']) ++ ['%'] := by simp [write]
    obtain ⟨hfaults, hnodes⟩ := parse_printCut_field hwrite (isFieldChar_angles hchars)
    exact ⟨hfaults, by rw [hnodes]; rfl⟩

theorem printCut_append (nodes : List Node) {node : Node} (hne : print [node] ≠ "") :
    printCut (nodes ++ [node]) = print nodes ++ printCut [node] := by
  have hne' : (print [node]).toList ≠ [] := by simpa using hne
  rw [printCut, print_append, String.toList_append, List.dropLast_append_of_ne_nil hne',
    String.ofList_append, String.ofList_toList, printCut]

end Node

/-- **A construct that is cut off costs one fault and nothing before it.** Take the last character
from the source of a tree in normal form that ends in a construct. The source in front of the
construct is read as it was, what is left of the construct stands behind it, and the only fault is
where the construct begins. -/
theorem parse_printCut {nodes rest : List Node} {node : Node} {cause : Fault.Cause}
    {excerpt : String} (hnodes : NormalSequence maxDepth nodes) (hnode : node.Normal maxDepth)
    (h : node.CutOff cause excerpt rest) :
    (Script.parse (Node.printCut (nodes ++ [node]))).faults
        = [⟨(Node.print nodes).utf8ByteSize, excerpt, cause⟩]
      ∧ Node.shapesOf (Script.parse (Node.printCut (nodes ++ [node]))).nodes
        = joinSequences (Node.shapesOf nodes) (Node.shapesOf rest) := by
  obtain ⟨-, -, hne, -⟩ := hnode.exists_parse_print
  obtain ⟨hclean, hshapes⟩ := Script.parse_of_reads hnodes.reads_print
  rw [gather_shapesOf hnodes.merged] at hshapes
  obtain ⟨hfaults, hrest⟩ := h.parse_printCut_singleton hnode
  rw [Node.printCut_append nodes hne]
  constructor
  · rw [Script.faults_parse_append hclean, hfaults]
    rfl
  · rw [Script.nodes_parse_append hclean, shapesOf_joinSequences
      (Script.merged_nodes_parse _) (merged_relocateAll.2 (Script.merged_nodes_parse _)), hshapes,
      Node.shapesOf_relocateAll, hrest]

/-- A group with a call in it behind a letter of two bytes: the letter, the bracket and the text
inside become one text. -/
theorem parse_printCut_bracket :
    let node : Node := .group 0 [.literal 0 "x", .call 0 "f" [[.literal 0 ","]]]
    NormalSequence maxDepth [.literal 0 "é"] ∧ node.Normal maxDepth
      ∧ node.CutOff .unterminatedGroup "[" [.literal 0 "[x", .call 0 "f" [[.literal 0 ","]]]
      ∧ (Script.parse "é[x$f(\\,)").faults = [⟨2, "[", .unterminatedGroup⟩]
      ∧ Node.shapesOf (Script.parse "é[x$f(\\,)").nodes
        = [.literal 0 "é[x", .call 0 "f" [[.literal 0 ","]]] := by
  intro node
  have hletter : NormalSequence maxDepth [.literal 0 "é"] :=
    ⟨.singleton _, List.forall_mem_singleton.2 (.literal (by decide))⟩
  have hcall : (Node.call 0 "f" [[.literal 0 ","]]).Normal 63 :=
    .call (by decide +kernel) (by simp) (by simp [Merged]) (by simp [Node.Normal.literal])
  have hnode : node.Normal maxDepth :=
    .group (by simp [Merged, Node.IsLiteral]) (by simp [hcall, Node.Normal.literal])
  have hcut : node.CutOff .unterminatedGroup "["
      [.literal 0 "[x", .call 0 "f" [[.literal 0 ","]]] := .group
  have hprint : Node.printCut ([.literal 0 "é"] ++ [node]) = "é[x$f(\\,)" := by decide
  have hparse := parse_printCut hletter hnode hcut
  rw [hprint] at hparse
  exact ⟨hletter, hnode, hcut, hparse⟩

end TitleScript
