import Mathlib.Data.List.Chain
import TitleScript.Proofs.Script.Relocation
import TitleScript.Proofs.Script.Step

/-!
# The normal form of trees

Many trees would be written as the same source. The tree that a source is read as is the one in
normal form: literal text is neither empty nor split in two, names are names, quoted text holds no
quote unless it is one, and a call without source between its parentheses has no arguments. Calls
and groups nest at most `maxDepth` deep.

This holds of malformed sources, too. What goes wrong becomes text like any other, and a group
that is not closed gives its content back to the sequence around it, where there is one more level
of room and literal text may meet literal text.

## Main definitions

* `Node.Normal`, `NormalSequence` — nodes and sequences in normal form, with room for so many levels
* `NormalFrames`, `Assembly.Normal` — the same for a tree under assembly

## Main results

* `NormalSequence.push` — adding a node
* `Assembly.Normal.of_effect` — every step keeps the normal form
* `normalSequence_nodes_parse` — every tree is in normal form
-/

namespace TitleScript

/-! ### Nodes and sequences in normal form -/

/-- Whether no two literal nodes of a sequence are next to each other. -/
def Merged (nodes : List Node) : Prop := nodes.IsChain fun a b => ¬(a.IsLiteral ∧ b.IsLiteral)

/-- A node in normal form, in which calls and groups nest at most `room` deep. -/
inductive Node.Normal : Nat → Node → Prop
  | literal {room position text} : text ≠ "" → Normal room (.literal position text)
  | quoted {room position text} : text = "\"" ∨ text ≠ "" ∧ '"' ∉ text.toList →
      Normal room (.quoted position text)
  | field {room position name} : isReferenceable name → Normal room (.field position name)
  | fieldList {room position name} : isReferenceable name → Normal room (.fieldList position name)
  | call {room position name args} : isCallable name → args ≠ [[]] → (∀ arg ∈ args, Merged arg) →
      (∀ arg ∈ args, ∀ node ∈ arg, Normal room node) → Normal (room + 1) (.call position name args)
  | group {room position content} : Merged content → (∀ node ∈ content, Normal room node) →
      Normal (room + 1) (.group position content)

/-- A sequence in normal form, in which calls and groups nest at most `room` deep. -/
structure NormalSequence (room : Nat) (nodes : List Node) : Prop where
  /-- Literal text is not split. -/
  merged : Merged nodes
  /-- Each node is in normal form. -/
  normal : ∀ node ∈ nodes, node.Normal room

theorem Node.Normal.mono {room room' : Nat} {node : Node} (h : node.Normal room)
    (hle : room ≤ room') : node.Normal room' := by
  induction h generalizing room' with
  | literal h => exact .literal h
  | quoted h => exact .quoted h
  | field h => exact .field h
  | fieldList h => exact .fieldList h
  | call hname hargs hmerged _ ih =>
    obtain ⟨room', rfl⟩ := Nat.exists_eq_add_of_le' (Nat.le_of_add_left_le hle)
    exact .call hname hargs hmerged fun arg harg node hnode => ih arg harg node hnode (by omega)
  | group hmerged _ ih =>
    obtain ⟨room', rfl⟩ := Nat.exists_eq_add_of_le' (Nat.le_of_add_left_le hle)
    exact .group hmerged fun node hnode => ih node hnode (by omega)

theorem merged_reverse {nodes : List Node} : Merged nodes.reverse ↔ Merged nodes := by
  rw [Merged, List.isChain_reverse, Merged]
  simp only [and_comm]

theorem merged_cons {node : Node} {nodes : List Node} :
    Merged (node :: nodes)
      ↔ (∀ next ∈ nodes.head?, ¬(node.IsLiteral ∧ next.IsLiteral)) ∧ Merged nodes :=
  List.isChain_cons

theorem merged_relocateAll {f : Nat → Nat} {nodes : List Node} :
    Merged (Node.relocateAll f nodes) ↔ Merged nodes := by
  rw [Node.relocateAll_eq, Merged, List.isChain_map]
  simp only [Node.isLiteral_relocate, Merged]

/-- Adding a node to a sequence that is kept last node first. -/
theorem merged_pushNode {nodes : List Node} {node : Node} (h : Merged nodes) :
    Merged (pushNode nodes node) := by
  obtain ⟨position, text, rest, position', more, rfl, rfl, heq⟩ | ⟨hne, heq⟩ :=
    pushNode_cases nodes node
  · -- the merged text stands where the text before it stood
    obtain ⟨hfirst, hrest⟩ := merged_cons.1 h
    rw [heq]
    exact merged_cons.2 ⟨hfirst, hrest⟩
  · rw [heq]
    exact merged_cons.2 ⟨hne, h⟩

/-- Nodes that do not merge are added as they are. -/
theorem foldl_pushNode_of_merged {nodes before : List Node}
    (h : Merged (nodes.reverse ++ before)) :
    nodes.foldl pushNode before = nodes.reverse ++ before := by
  induction nodes generalizing before with
  | nil => rfl
  | cons node nodes ih =>
    rw [List.reverse_cons, List.append_assoc, List.singleton_append] at h ⊢
    have hnode : Merged (node :: before) := List.IsChain.right_of_append h
    rw [List.foldl_cons, pushNode_of_not_isLiteral (merged_cons.1 hnode).1, ih h]

namespace NormalSequence

variable {room : Nat} {nodes : List Node}

theorem nil : NormalSequence room [] := ⟨.nil, by simp⟩

theorem reverse (h : NormalSequence room nodes) : NormalSequence room nodes.reverse :=
  ⟨merged_reverse.2 h.merged, by simpa using h.normal⟩

theorem mono {room' : Nat} (h : NormalSequence room nodes) (hle : room ≤ room') :
    NormalSequence room' nodes :=
  ⟨h.merged, fun node hnode => (h.normal node hnode).mono hle⟩

/-- **Adding a node keeps the normal form.** -/
theorem push {node : Node} (h : NormalSequence room nodes) (hnode : node.Normal room) :
    NormalSequence room (pushNode nodes node) := by
  refine ⟨merged_pushNode h.merged, ?_⟩
  obtain ⟨position, text, rest, position', more, rfl, rfl, heq⟩ | ⟨-, heq⟩ :=
    pushNode_cases nodes node
  · rw [heq]
    obtain ⟨hfirst, hrest⟩ := List.forall_mem_cons.1 h.normal
    refine List.forall_mem_cons.2 ⟨?_, hrest⟩
    cases hfirst with
    | literal hne => exact .literal (by simp [hne])
  · rw [heq]
    exact List.forall_mem_cons.2 ⟨hnode, h.normal⟩

theorem foldl_push {more : List Node} (h : NormalSequence room nodes)
    (hmore : ∀ node ∈ more, node.Normal room) :
    NormalSequence room (more.foldl pushNode nodes) := by
  induction more generalizing nodes with
  | nil => exact h
  | cons node more ih =>
    obtain ⟨hnode, hmore⟩ := List.forall_mem_cons.1 hmore
    exact ih (h.push hnode) hmore

end NormalSequence

/-! ### Trees under assembly -/

/-- Frames, innermost first, that keep normal forms. In the sequence inside them, calls and groups
may nest `room` deep. -/
inductive NormalFrames : Nat → List Frame → Prop
  | nil : NormalFrames maxDepth []
  | group {room frames start outer} : NormalFrames (room + 1) frames →
      NormalSequence (room + 1) outer → NormalFrames room (⟨.group, start, outer⟩ :: frames)
  | call {room frames start outer name args n} : NormalFrames (room + 1) frames →
      NormalSequence (room + 1) outer → isCallable name →
      (∀ arg ∈ args, NormalSequence room arg) →
      NormalFrames room (⟨.call name args n, start, outer⟩ :: frames)

theorem NormalFrames.room_add_length {room : Nat} {frames : List Frame}
    (h : NormalFrames room frames) : room + frames.length = maxDepth := by
  induction h with
  | nil => rfl
  | group _ _ ih => rw [List.length_cons]; omega
  | call _ _ _ _ ih => rw [List.length_cons]; omega

/-- There is room for another construct as long as the frames are fewer than the limit. -/
theorem NormalFrames.exists_room {room : Nat} {frames : List Frame} (h : NormalFrames room frames)
    (hlt : frames.length < maxDepth) : ∃ room', room = room' + 1 := by
  have := h.room_add_length
  exact ⟨room - 1, by omega⟩

/-- A node made by one token, whatever room there is. -/
theorem Token.normal_of_node? {t : Token} {position room : Nat} {node : Node} (h : t.WellFormed)
    (hnode : t.node? position = some node) : node.Normal room := by
  cases t with
  | escaped c =>
    obtain rfl := Option.some.inj hnode
    exact .literal (by simp)
  | quoted text =>
    obtain rfl := Option.some.inj hnode
    rw [← String.toList_ofList (l := text), wellFormed_quoted_toList] at h
    exact .quoted h
  | field name => obtain rfl := Option.some.inj hnode; exact .field h
  | fieldList name => obtain rfl := Option.some.inj hnode; exact .fieldList h
  | _ => simp [node?] at hnode

namespace Assembly

theorem normal_call {room position : Nat} {name : String} {args : List (List Node)}
    (hname : isCallable name) (hargs : ∀ arg ∈ args, NormalSequence room arg) :
    (Node.call position name (finishArgs args)).Normal (room + 1) :=
  .call hname (finishArgs_ne args) (fun _ harg => (hargs _ (mem_of_mem_finishArgs harg)).merged)
    fun _ harg => (hargs _ (mem_of_mem_finishArgs harg)).normal

theorem normal_group {room position : Nat} {content : List Node}
    (h : NormalSequence room content) : (Node.group position content).Normal (room + 1) :=
  .group h.merged h.normal

/-- A tree under assembly in normal form. -/
def Normal (a : Assembly) : Prop :=
  ∃ room, NormalFrames room a.frames ∧ NormalSequence room a.nodes

theorem normal_pushText {room position : Nat} {nodes : List Node} {text : List Char}
    (h : NormalSequence room nodes) (hne : text ≠ []) :
    NormalSequence room (pushNode nodes (.literal position (String.ofList text))) :=
  h.push (.literal (by simpa using hne))

/-- **Every step keeps the normal form.** -/
theorem Normal.of_effect {a a' : Assembly} {position : Nat} {t : Token} (h : a.Normal)
    (ht : t.WellFormed) (heffect : Effect a position t a') : a'.Normal := by
  obtain ⟨room, hframes, hnodes⟩ := h
  cases heffect with
  | node hnode => exact ⟨room, hframes, hnodes.push (Token.normal_of_node? ht hnode)⟩
  | text hc => exact ⟨room, hframes, normal_pushText hnodes (by simp)⟩
  | openParenthesis heq | closeParenthesis heq =>
    rw [heq] at hframes
    cases hframes with
    | call hframes houter hname hargs =>
      exact ⟨room, .call hframes houter hname hargs, normal_pushText hnodes (by simp)⟩
  | nextArgument heq =>
    rw [heq] at hframes
    cases hframes with
    | call hframes houter hname hargs =>
      have hargs' := List.forall_mem_cons.2 ⟨hnodes.reverse, hargs⟩
      exact ⟨room, .call hframes houter hname hargs', .nil⟩
  | closeCall heq =>
    rw [heq] at hframes
    cases hframes with
    | call hframes houter hname hargs =>
      have hargs' := List.forall_mem_cons.2 ⟨hnodes.reverse, hargs⟩
      exact ⟨room + 1, hframes, houter.push (normal_call hname hargs')⟩
  | openCall hname hlt =>
    obtain ⟨room, rfl⟩ := hframes.exists_room hlt
    exact ⟨room, .call hframes hnodes hname (by simp), .nil⟩
  | openGroup hlt =>
    obtain ⟨room, rfl⟩ := hframes.exists_room hlt
    exact ⟨room, .group hframes hnodes, .nil⟩
  | closeGroup heq =>
    rw [heq] at hframes
    cases hframes with
    | group hframes houter =>
      exact ⟨room + 1, hframes, houter.push (normal_group hnodes.reverse)⟩
  | fault _ _ _ => exact ⟨room, hframes, normal_pushText hnodes (Token.spelling_ne_nil ht)⟩

theorem normal_ofTokens_scan (source : List Char) : (ofTokens (Token.scan source)).Normal :=
  ofTokens_scan_induction (motive := fun _ a => a.Normal) ⟨maxDepth, .nil, .nil⟩
    (fun h ht heffect => h.of_effect ht heffect) source

/-- Closing what the source left open keeps the normal form. The content of a group moves out by
one level, so it has the room that it needs there. -/
theorem normalSequence_unwind {room : Nat} {frames : List Frame}
    (hframes : NormalFrames room frames) {nodes : List Node} (hnodes : NormalSequence room nodes)
    (faults : List Fault) :
    NormalSequence maxDepth (unwind nodes faults frames).1 := by
  induction hframes generalizing nodes faults with
  | nil => exact hnodes
  | group _ houter ih =>
    have hcontent := (hnodes.reverse.mono (Nat.le_succ _)).normal
    exact ih (.foldl_push (houter.push (.literal (by decide))) hcontent) _
  | call _ houter hname hargs ih =>
    have hargs' := List.forall_mem_cons.2 ⟨hnodes.reverse, hargs⟩
    exact ih (houter.push (normal_call hname hargs')) _

end Assembly

/-- **Every source is read as a tree in normal form**, with all calls and groups in it at most
`maxDepth` deep. -/
theorem normalSequence_nodes_parse (source : String) :
    NormalSequence maxDepth (Script.parse source).nodes := by
  obtain ⟨room, hframes, hnodes⟩ := Assembly.normal_ofTokens_scan source.toList
  rw [Script.nodes_parse]
  exact (Assembly.normalSequence_unwind hframes hnodes _).reverse

end TitleScript
