import TitleScript.Proofs.Script.Embedding
import TitleScript.Proofs.Script.NormalForm
import TitleScript.Proofs.Text.Position

/-!
# Sources made of sources

A source without a fault is read the same wherever it stands: with any source behind it, and
between brackets if there is room for one more level. Its tokens end where it ends, because only
a faulty token can depend on what comes after it, and it closes all that it opens. So what a source
behind it is read as is added to its tree, with literal text merged where the two meet, and all
faults of the two together are those of the second.

## Main definitions

* `joinSequences` — one sequence behind another, with literal text merged where they meet

## Main results

* `Script.nodes_parse_append`, `Script.faults_parse_append` — two sources, one behind the other
* `Script.parse_brackets` — a source between brackets
* `parse_compositional` — both laws
-/

namespace TitleScript

open Token

/-! ### Sequences put together -/

/-- One sequence behind another. Literal text at the end of the first becomes one text with literal
text at the beginning of the second, at the position of the first. -/
def joinSequences (nodes more : List Node) : List Node :=
  match nodes.getLast?, more with
  | some (.literal position text), .literal _ text' :: rest =>
    nodes.dropLast ++ .literal position (text ++ text') :: rest
  | _, _ => nodes ++ more

theorem joinSequences_of_not_isLiteral {nodes more : List Node}
    (h : ∀ last ∈ nodes.getLast?, ∀ first ∈ more.head?, ¬(first.IsLiteral ∧ last.IsLiteral)) :
    joinSequences nodes more = nodes ++ more := by
  unfold joinSequences
  split
  · next hlast => exact absurd ⟨trivial, trivial⟩ (h _ hlast _ rfl)
  · rfl

theorem merged_reverse_append {nodes more : List Node} (hnodes : Merged nodes)
    (hmore : Merged more)
    (h : ∀ last ∈ nodes.head?, ∀ first ∈ more.head?, ¬(first.IsLiteral ∧ last.IsLiteral)) :
    Merged (more.reverse ++ nodes) := by
  refine List.isChain_append.2 ⟨merged_reverse.2 hmore, hnodes, ?_⟩
  intro first hfirst last hlast
  rw [List.getLast?_reverse] at hfirst
  exact h last hlast first hfirst

/-- Adding a sequence to another node by node merges literal text where they meet. -/
theorem reverse_foldl_pushNode_eq {nodes more : List Node} (hnodes : Merged nodes)
    (hmore : Merged more) :
    (more.foldl pushNode nodes).reverse = joinSequences nodes.reverse more := by
  cases more with
  | nil => rw [joinSequences_of_not_isLiteral (by simp), List.append_nil, List.foldl_nil]
  | cons node more =>
    obtain ⟨position, text, rest, position', more', rfl, rfl, heq⟩ | ⟨hne, -⟩ :=
      pushNode_cases nodes node
    · obtain ⟨hlast, hrest⟩ := merged_cons.1 hnodes
      obtain ⟨hfirst, hmore⟩ := merged_cons.1 hmore
      have hjoined : Merged (.literal position (text ++ more') :: rest) :=
        merged_cons.2 ⟨hlast, hrest⟩
      have hall := merged_reverse_append hjoined hmore fun last hlast first hnext => by
        obtain rfl := Option.some.inj hlast
        exact fun hboth => hfirst first hnext ⟨trivial, hboth.1⟩
      rw [List.foldl_cons, heq, foldl_pushNode_of_merged hall]
      simp [joinSequences]
    · have hmeet : ∀ last ∈ nodes.head?, ∀ first ∈ (node :: more).head?,
          ¬(first.IsLiteral ∧ last.IsLiteral) := fun last hlast first hfirst => by
        obtain rfl := Option.some.inj hfirst
        exact hne last hlast
      rw [foldl_pushNode_of_merged (merged_reverse_append hnodes hmore hmeet),
        joinSequences_of_not_isLiteral (by rwa [List.getLast?_reverse])]
      simp

theorem relocateAll_joinSequences (f : Nat → Nat) {nodes more : List Node} (hnodes : Merged nodes)
    (hmore : Merged more) :
    Node.relocateAll f (joinSequences nodes more)
      = joinSequences (Node.relocateAll f nodes) (Node.relocateAll f more) := by
  have hadd {nodes more : List Node} (hnodes : Merged nodes) (hmore : Merged more) :
      joinSequences nodes more = (more.foldl pushNode nodes.reverse).reverse := by
    rw [reverse_foldl_pushNode_eq (merged_reverse.2 hnodes) hmore, List.reverse_reverse]
  rw [hadd hnodes hmore, Node.relocateAll_reverse, Node.relocateAll_foldl_pushNode,
    Node.relocateAll_reverse, hadd (merged_relocateAll.2 hnodes) (merged_relocateAll.2 hmore)]

theorem shapesOf_joinSequences {nodes more : List Node} (hnodes : Merged nodes)
    (hmore : Merged more) :
    Node.shapesOf (joinSequences nodes more)
      = joinSequences (Node.shapesOf nodes) (Node.shapesOf more) := by
  simp only [Node.shapesOf_eq_relocateAll, relocateAll_joinSequences _ hnodes hmore]

/-! ### Sources without a fault -/

/-- Where tokens assemble without a fault, none of them is faulty. -/
theorem Assembly.not_isFaulty_of_foldl_step {a : Assembly} {xs : List (Nat × Token)}
    (hxs : ∀ x ∈ xs, x.2.WellFormed) (h : (xs.foldl step a).faults = []) :
    ∀ x ∈ xs, ¬x.2.IsFaulty := by
  induction xs using List.reverseRecOn with
  | nil => simp
  | append_singleton xs x ih =>
    obtain ⟨position, t⟩ := x
    obtain ⟨hinit, hlast⟩ := List.forall_mem_append.1 hxs
    simp only [List.foldl_append, List.foldl_cons, List.foldl_nil] at h
    have heffect : Effect (xs.foldl step a) position t _ :=
      effect_step (hlast _ (List.mem_singleton_self _))
    refine List.forall_mem_append.2 ⟨ih hinit (heffect.faults_eq_nil h), ?_⟩
    refine List.forall_mem_singleton.2 fun hfaulty => ?_
    cases t with
    | faulty cause source => cases h
    | _ => exact hfaulty

namespace Script

variable {source : String}

theorem wellFormed_of_mem_scan (cs : List Char) : ∀ x ∈ scan cs, x.2.WellFormed := by
  intro x hx
  have hmem : x.2 ∈ (scan cs).map (·.2) := List.mem_map_of_mem hx
  rw [scan_eq, map_snd_withPositions] at hmem
  exact wellFormed_of_mem_tokens hmem

theorem merged_nodes_parse (source : String) : Merged (parse source).nodes := by
  obtain ⟨room, hframes, hnodes⟩ := Assembly.normal_ofTokens_scan source.toList
  rw [nodes_parse]
  exact (Assembly.normalSequence_unwind hframes hnodes _).reverse.merged

/-- A source without a fault leaves nothing open. -/
theorem ofTokens_scan_eq (h : (parse source).faults = []) :
    Assembly.ofTokens (scan source.toList) = ⟨(parse source).nodes.reverse, [], []⟩ := by
  have hfinish := List.nil_perm.1 (h ▸ faults_parse_perm source)
  rw [nodes_parse]
  generalize Assembly.ofTokens (scan source.toList) = a at hfinish ⊢
  obtain ⟨hframes, hfaults⟩ := Assembly.eq_nil_of_finish_eq_nil hfinish
  obtain ⟨nodes, frames, faults⟩ := a
  obtain rfl : frames = [] := hframes
  obtain rfl : faults = [] := hfaults
  simp [Assembly.finish, Assembly.unwind]

theorem not_isFaulty_of_mem_tokens (h : (parse source).faults = []) :
    ∀ t ∈ tokens source.toList, ¬t.IsFaulty := by
  have hrun := Assembly.not_isFaulty_of_foldl_step (a := .empty)
    (wellFormed_of_mem_scan source.toList) (by rw [← Assembly.ofTokens, ofTokens_scan_eq h])
  intro t ht
  rw [← map_snd_withPositions 0 (tokens source.toList), ← scan_eq] at ht
  obtain ⟨x, hx, rfl⟩ := List.mem_map.1 ht
  exact hrun x hx

/-! ### One source behind another -/

/-- The tree under assembly after two sources, the first one without a fault. -/
theorem ofTokens_scan_append (h : (parse source).faults = []) (more : List Char) :
    Assembly.ofTokens (scan (source.toList ++ more))
      = ((Assembly.ofTokens (scan more)).relocate (source.utf8ByteSize + ·)).behind
          ⟨(parse source).nodes.reverse, [], []⟩ := by
  rw [scan_append (not_isFaulty_of_mem_tokens h), Assembly.ofTokens, List.foldl_append,
    ← Assembly.ofTokens, ofTokens_scan_eq h, Assembly.ofTokens, Assembly.relocate_foldl_step,
    Assembly.foldl_step_behind rfl, Text.utf8ByteSize_eq]
  rfl

theorem finish_append (h : (parse source).faults = []) (more : String) :
    (Assembly.ofTokens (scan (source ++ more).toList)).finish
      = (joinSequences (parse source).nodes
            (Node.relocateAll (source.utf8ByteSize + ·) (parse more).nodes),
          (Assembly.ofTokens (scan more.toList)).finish.2.map
            (Fault.relocate (source.utf8ByteSize + ·))) := by
  have hmore : Merged (Node.relocateAll (source.utf8ByteSize + ·) (parse more).nodes) := by
    rw [merged_relocateAll]
    exact merged_nodes_parse more
  rw [String.toList_append, ofTokens_scan_append h, Assembly.finish_behind rfl rfl,
    Assembly.finish_relocate, ← nodes_parse, resume, List.reverse_reverse,
    reverse_foldl_pushNode_eq (merged_reverse.2 (merged_nodes_parse source)) hmore,
    List.reverse_reverse]

/-- The tree of a source behind another goes on behind the tree of the other. -/
theorem nodes_parse_append (h : (parse source).faults = []) (more : String) :
    (parse (source ++ more)).nodes
      = joinSequences (parse source).nodes
          (Node.relocateAll (source.utf8ByteSize + ·) (parse more).nodes) := by
  rw [nodes_parse, finish_append h]

/-- Faults of a source are where they were, that many bytes further on. -/
theorem faults_parse_append (h : (parse source).faults = []) (more : String) :
    (parse (source ++ more)).faults
      = (parse more).faults.map (Fault.relocate (source.utf8ByteSize + ·)) := by
  have hsort (s : String) : (parse s).faults
      = (Assembly.ofTokens (scan s.toList)).finish.2.mergeSort
          fun a b => a.position ≤ b.position := rfl
  rw [hsort, hsort, finish_append h]
  refine (List.map_mergeSort ?_).symm
  intro a _ b _
  simp [Fault.relocate]

/-! ### A source between brackets -/

theorem scan_brackets (h : (parse source).faults = []) :
    scan ("[" ++ source ++ "]").toList
      = (0, groupStart) :: (scan source.toList).map (fun x => (1 + x.1, x.2))
        ++ [(1 + source.utf8ByteSize, groupEnd)] := by
  have hopen : tokens ['['] = [groupStart] := by simp [tokens_cons, Token.read]
  have hclose : tokens [']'] = [groupEnd] := by simp [tokens_cons, Token.read]
  have hclean := not_isFaulty_of_mem_tokens h
  have hsource : ("[" ++ source ++ "]").toList = ['['] ++ (source.toList ++ [']']) := by simp
  rw [hsource, scan_append (by simp [hopen, IsFaulty]), scan_append hclean, scan_eq ['['],
    scan_eq [']'], hopen, hclose, Text.utf8ByteSize_eq]
  have hbyte : '['.utf8Size = 1 := rfl
  simp [withPositions, hbyte]

/-- Inside a group, tokens make the nodes that they make on their own. -/
theorem foldl_step_openGroup {xs : List (Nat × Token)} {nodes : List Node}
    (hxs : ∀ x ∈ xs, x.2.WellFormed)
    (hrun : xs.foldl Assembly.step .empty = ⟨nodes.reverse, [], []⟩) (hmerged : Merged nodes)
    (hnesting : Node.nestingOf nodes < maxDepth) :
    xs.foldl Assembly.step ⟨[], [⟨.group, 0, []⟩], []⟩
      = ⟨nodes.reverse, [⟨.group, 0, []⟩], []⟩ := by
  let base : Assembly := ⟨[], [⟨.group, 0, []⟩], []⟩
  have hplace : Place.inside base.frames = .group := rfl
  have hroom : (xs.foldl Assembly.step .empty).nesting + base.frames.length ≤ maxDepth := by
    rw [hrun]
    show Node.nestingOf nodes.reverse + 1 ≤ maxDepth
    rw [Node.nestingOf_reverse]
    exact hnesting
  have hbehind := Assembly.foldl_step_behind_group (a := .empty) hplace hxs (by rw [hrun]) hroom
  have hresume : resume base.nodes nodes.reverse = nodes.reverse := by
    show nodes.reverse.reverse.foldl pushNode [] = nodes.reverse
    rw [List.reverse_reverse, foldl_pushNode_of_merged (by simpa using merged_reverse.2 hmerged),
      List.append_nil]
  rw [hrun, Assembly.behind_of_frames_eq_nil rfl, hresume, Assembly.empty_behind] at hbehind
  exact hbehind.symm

/-- What stands between brackets is what the group has, if it has no fault and there is room for one
more level. -/
theorem parse_brackets (h : (parse source).faults = [])
    (hnesting : Node.nestingOf (parse source).nodes < maxDepth) :
    (parse ("[" ++ source ++ "]")).faults = []
      ∧ (parse ("[" ++ source ++ "]")).nodes
        = [.group 0 (Node.relocateAll (1 + ·) (parse source).nodes)] := by
  set content := Node.relocateAll (1 + ·) (parse source).nodes with hcontent
  set xs := (scan source.toList).map fun x => (1 + x.1, x.2) with hxs
  have hwellFormed : ∀ x ∈ xs, x.2.WellFormed := by
    rw [hxs, List.forall_mem_map]
    exact wellFormed_of_mem_scan source.toList
  have hrun : xs.foldl Assembly.step .empty = ⟨content.reverse, [], []⟩ := by
    have hrelocate := Assembly.relocate_foldl_step (1 + ·) .empty (scan source.toList)
    rw [← Assembly.ofTokens, ofTokens_scan_eq h] at hrelocate
    rw [hcontent, ← Node.relocateAll_reverse]
    exact hrelocate.symm
  have hinside := foldl_step_openGroup hwellFormed hrun
    (merged_relocateAll.2 (merged_nodes_parse source)) (by rwa [Node.nestingOf_relocateAll])
  have hall : Assembly.ofTokens (scan ("[" ++ source ++ "]").toList)
      = ⟨[.group 0 content], [], []⟩ := by
    calc Assembly.ofTokens (scan ("[" ++ source ++ "]").toList)
        = (xs.foldl Assembly.step ⟨[], [⟨.group, 0, []⟩], []⟩).step
            (1 + source.utf8ByteSize, groupEnd) := by
          rw [scan_brackets h, Assembly.ofTokens, List.foldl_append]
          rfl
      _ = ⟨[.group 0 content.reverse.reverse], [], []⟩ := by
          rw [hinside]
          rfl
      _ = ⟨[.group 0 content], [], []⟩ := by rw [List.reverse_reverse]
  exact parse_of_ofTokens hall

end Script

/-- **Reading is compositional.** A source behind one without a fault has the faults that it has on
its own, further on by the bytes of the first, and its tree goes on behind that of the first.
Between brackets, a source without a fault that leaves room for one more level is read as a group of
what it is read as on its own. -/
theorem parse_compositional {s : String} (h : (Script.parse s).faults = []) :
    (∀ t : String,
      (Script.parse (s ++ t)).faults
          = (Script.parse t).faults.map (Fault.relocate (s.utf8ByteSize + ·))
        ∧ (Script.parse (s ++ t)).nodes
          = joinSequences (Script.parse s).nodes
              (Node.relocateAll (s.utf8ByteSize + ·) (Script.parse t).nodes))
      ∧ (Node.nestingOf (Script.parse s).nodes < maxDepth →
        (Script.parse ("[" ++ s ++ "]")).faults = []
          ∧ (Script.parse ("[" ++ s ++ "]")).nodes
            = [.group 0 (Node.relocateAll (1 + ·) (Script.parse s).nodes)]) :=
  ⟨fun t => ⟨Script.faults_parse_append h t, Script.nodes_parse_append h t⟩,
    Script.parse_brackets h⟩

/-- A group and text, with text and a bracket behind it that has no partner, and in a group. -/
theorem parse_compositional_bracket :
    (Script.parse "[é]x").faults = []
      ∧ (Script.parse ("[é]x" ++ "y]")).faults = [⟨6, "]", .unexpectedBracket⟩]
      ∧ (Script.parse ("[é]x" ++ "y]")).nodes = [.group 0 [.literal 1 "é"], .literal 4 "xy]"]
      ∧ Node.nestingOf (Script.parse "[é]x").nodes < maxDepth
      ∧ (Script.parse ("[" ++ "[é]x" ++ "]")).nodes
        = [.group 0 [.group 1 [.literal 2 "é"], .literal 5 "x"]] := by
  have hscan : scan "[é]x".toList
      = [(0, groupStart), (1, plain 'é'), (3, groupEnd), (4, plain 'x')] := by
    simp [scan_eq, tokens_cons, Token.read, withPositions, spelling]
    decide
  have hmore : scan "y]".toList = [(0, plain 'y'), (1, groupEnd)] := by
    simp [scan_eq, tokens_cons, Token.read, withPositions, spelling]
    decide
  have hrun : Assembly.ofTokens (scan "[é]x".toList)
      = ⟨[.literal 4 "x", .group 0 [.literal 1 "é"]], [], []⟩ := by
    rw [hscan]
    rfl
  obtain ⟨hfaults, hnodes⟩ := Script.parse_of_ofTokens hrun
  have hfinish : (Assembly.ofTokens (scan "y]".toList)).finish
      = ([.literal 0 "y]"], [⟨1, "]", .unexpectedBracket⟩]) := by
    rw [hmore]
    rfl
  obtain ⟨hfaultsMore, hnodesMore⟩ := Script.parse_of_finish hfinish
  have hnesting : Node.nestingOf (Script.parse "[é]x").nodes < maxDepth := by
    rw [hnodes]
    decide
  obtain ⟨happend, hbrackets⟩ := parse_compositional hfaults
  obtain ⟨hfaultsAppend, hnodesAppend⟩ := happend "y]"
  obtain ⟨-, hgroup⟩ := hbrackets hnesting
  rw [hfaultsMore] at hfaultsAppend
  rw [hnodes, hnodesMore] at hnodesAppend
  rw [hnodes] at hgroup
  exact ⟨hfaults, hfaultsAppend, hnodesAppend, hnesting, hgroup⟩

end TitleScript
