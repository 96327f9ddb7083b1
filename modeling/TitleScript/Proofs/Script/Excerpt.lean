import TitleScript.Diagnostic
import TitleScript.Proofs.Script.Position

/-!
# What faults and warnings point at

A fault says where it begins and repeats the source it is about, and a report underlines that
stretch of source. Nothing in the report checks that the two fit together. They do, and no two
faults compete for one position.

A construct that is not closed becomes a fault only at the end of the source, at the position where
it was opened and thus before faults that were found inside it. So the faults of a tree under
assembly are followed together with those that its frames would become: their positions are
distinct at every step, though not in order before they are sorted.

## Main definitions

* `Frame.fault`, `Assembly.pending` — the faults of a tree under assembly if the source ended
* `Located` — faults at distinct positions, with the source they are about
* `Span.Covers` — a stretch of source that is exactly some text

## Main results

* `Located.of_effect` — every step keeps faults located
* `spans_parse` — the stretches of source that diagnostics mark
-/

namespace TitleScript

open Text (StandsAt byteLength)

/-! ### Faults that are located -/

/-- Faults at distinct positions, each with source that stands there. -/
structure Located (source : List Char) (faults : List Fault) : Prop where
  /-- No two faults are at one position. -/
  distinct : faults.Pairwise fun f g => f.position ≠ g.position
  /-- The source that a fault is about is not empty and stands at its position. -/
  stands : ∀ f ∈ faults, f.excerpt.toList ≠ [] ∧ StandsAt source f.position f.excerpt.toList

namespace Located

variable {source more : List Char} {faults faults' : List Fault} {f : Fault}

theorem nil : Located [] [] := ⟨.nil, by simp⟩

theorem position_lt (h : Located source faults) (hf : f ∈ faults) :
    f.position < byteLength source := by
  obtain ⟨hne, hstands⟩ := h.stands f hf
  exact hstands.lt hne

theorem append (h : Located source faults) (more : List Char) :
    Located (source ++ more) faults := by
  refine ⟨h.distinct, fun f hf => ?_⟩
  obtain ⟨hne, hstands⟩ := h.stands f hf
  exact ⟨hne, hstands.append more⟩

/-- A fault of the next token. -/
theorem cons (h : Located source faults) (hposition : f.position = byteLength source)
    (hne : f.excerpt.toList ≠ []) (hbegins : f.excerpt.toList <+: more) :
    Located (source ++ more) (f :: faults) := by
  refine ⟨List.pairwise_cons.2 ⟨fun g hg => ?_, h.distinct⟩, fun g hg => ?_⟩
  · have hlt := h.position_lt hg
    omega
  · rcases List.mem_cons.1 hg with rfl | hg
    · obtain ⟨rest, rfl⟩ := hbegins
      rw [hposition]
      exact ⟨hne, (Text.standsAt_byteLength source _).left⟩
    · obtain ⟨hne, hstands⟩ := h.stands g hg
      exact ⟨hne, hstands.append more⟩

theorem sublist (h : Located source faults) (hsub : faults'.Sublist faults) :
    Located source faults' :=
  ⟨h.distinct.sublist hsub, fun f hf => h.stands f (hsub.subset hf)⟩

theorem perm (h : Located source faults) (hperm : faults.Perm faults') :
    Located source faults' :=
  ⟨hperm.pairwise h.distinct fun hne => hne.symm, fun f hf => h.stands f (hperm.mem_iff.2 hf)⟩

end Located

/-! ### Trees under assembly -/

/-- The fault that a frame becomes if nothing closes it. -/
def Frame.fault (frame : Frame) : Fault :=
  match frame.opening with
  | .group => ⟨frame.position, "[", .unterminatedGroup⟩
  | .call name _ _ => ⟨frame.position, "$" ++ name ++ "(", .unterminatedCall⟩

theorem Frame.position_fault (frame : Frame) : frame.fault.position = frame.position := by
  rw [fault]
  split <;> rfl

/-- A construct that is not closed is a fault of the source that opened it. -/
theorem Frame.toList_excerpt_fault (frame : Frame) :
    frame.fault.excerpt.toList = frame.opening.spelling := by
  rw [fault]
  split
  · next h => simp [h, Opening.spelling]
  · next h => simp [h, Opening.spelling]

namespace Assembly

/-- The faults found so far and those that would be found if the source ended. -/
def pending (a : Assembly) : List Fault := a.frames.map Frame.fault ++ a.faults

/-- At the end of the source each frame becomes its fault. -/
theorem faults_unwind (nodes : List Node) (faults : List Fault) (frames : List Frame) :
    (unwind nodes faults frames).2 = (frames.map Frame.fault).reverse ++ faults := by
  induction frames generalizing nodes faults with
  | nil => rfl
  | cons frame frames ih =>
    obtain ⟨opening, start, outer⟩ := frame
    cases opening with
    | group => rw [unwind, ih]; simp [Frame.fault]
    | call name args n => rw [unwind, ih]; simp [Frame.fault]

theorem faults_finish_perm (a : Assembly) : a.finish.2.Perm a.pending := by
  have hfaults : a.finish.2 = ((a.frames.map Frame.fault).reverse ++ a.faults).reverse := by
    rw [← faults_unwind a.nodes a.faults a.frames]
    rfl
  rw [hfaults]
  exact (List.reverse_perm _).trans ((List.reverse_perm _).append_right _)

end Assembly

namespace Located

open Assembly

variable {source : List Char} {a a' : Assembly} {t : Token}

/-- A construct that the next token opens. -/
theorem openFrame (h : Located source a.pending) (opening : Opening) :
    Located (source ++ opening.spelling)
      (pending ⟨[], ⟨opening, byteLength source, a.nodes⟩ :: a.frames, a.faults⟩) := by
  have hexcerpt := Frame.toList_excerpt_fault ⟨opening, byteLength source, a.nodes⟩
  refine h.cons (Frame.position_fault _) ?_ ?_
  · rw [hexcerpt]
    exact opening.spelling_ne_nil
  · simpa only [hexcerpt] using List.prefix_rfl

/-- **Every step keeps faults located.** -/
theorem of_effect (h : Located source a.pending) (ht : t.WellFormed)
    (heffect : Effect a (byteLength source) t a') : Located (source ++ t.spelling) a'.pending := by
  cases heffect with
  | node _ | text _ => exact h.append _
  | openParenthesis heq | closeParenthesis heq | nextArgument heq =>
    -- the frame stands for the same fault as before
    rw [pending, heq] at h
    exact h.append _
  | closeCall heq | closeGroup heq =>
    rw [pending, heq] at h
    exact (h.sublist (List.sublist_cons_self _ _)).append _
  | @openCall name hname hlt =>
    have hopen := h.openFrame (.call (String.ofList name) [] 0)
    rwa [Opening.spelling, String.toList_ofList] at hopen
  | openGroup hlt => exact h.openFrame .group
  | @fault _ cause _ _ hbegins =>
    have hne := Token.excerpt_ne_nil cause (Token.spelling_ne_nil ht)
    have hcons : Located (source ++ t.spelling)
        (⟨byteLength source, String.ofList (Token.excerpt cause t.spelling), cause⟩
          :: a.pending) := by
      refine h.cons rfl ?_ ?_
      · rwa [String.toList_ofList]
      · rwa [String.toList_ofList]
    exact hcons.perm List.perm_middle.symm

end Located

/-- The faults of a source are located. -/
theorem located_faults_parse (source : String) :
    Located source.toList (Script.parse source).faults := by
  have hrun : Located source.toList (Assembly.ofTokens (Token.scan source.toList)).pending :=
    Assembly.ofTokens_scan_induction (motive := fun past a => Located past a.pending) .nil
      (fun h ht heffect => h.of_effect ht heffect) source.toList
  exact hrun.perm ((Script.faults_parse_perm source).trans (Assembly.faults_finish_perm _)).symm

/-- Faults are sorted, and at distinct positions. -/
theorem pairwise_faults_parse (source : String) :
    (Script.parse source).faults.Pairwise fun f g => f.position < g.position := by
  have hle : (Script.parse source).faults.Pairwise fun f g => f.position ≤ g.position := by
    refine (List.pairwise_mergeSort ?_ ?_ _).imp of_decide_eq_true
    · intro f g k hfg hgk
      simp only [decide_eq_true_eq] at hfg hgk ⊢
      omega
    · intro f g
      simp only [Bool.or_eq_true, decide_eq_true_eq]
      omega
  exact (hle.and (located_faults_parse source).distinct).imp fun h => Nat.lt_of_le_of_ne h.1 h.2

/-! ### Diagnostics -/

/-- The stretch of source is the text: it has its bytes, and both ends are between characters. -/
def Span.Covers (source : String) (span : Span) (text : List Char) : Prop :=
  StandsAt source.toList span.offset text ∧ byteLength text = span.length

/-- A stretch of source where some text stands is not cut off. -/
theorem Span.within_of_standsAt {source : String} {position : Nat} {text : List Char}
    (h : StandsAt source.toList position text) (hne : text ≠ []) :
    Span.within source position (byteLength text) = ⟨position, byteLength text⟩ := by
  have hle := h.add_le
  have hpos := Text.byteLength_pos hne
  rw [within, Text.utf8ByteSize_eq, Span.mk.injEq]
  omega

/-- Only constructs that begin with one of three characters are warned about. -/
theorem Node.exists_cons_of_mem_ownWarnings {r : Registry} {node : Node} {w : Warning}
    (h : w ∈ node.ownWarnings r) {text : List Char} (htext : text ∈ node.beginnings) :
    ∃ c ∈ ['%', '$', '['], ∃ rest, text = [c] ++ rest := by
  cases node with
  | literal p t | quoted p t => exact absurd h List.not_mem_nil
  | field p name | fieldList p name => exact ⟨'%', by simp, _, List.mem_singleton.1 htext⟩
  | call p name args => exact ⟨'$', by simp, _, List.mem_singleton.1 htext⟩
  | group p content => exact ⟨'[', by simp, _, List.mem_singleton.1 htext⟩

/-- **Diagnostics mark exactly the source they are about.** The faults of a source are in the order
of their positions, no two at one. The stretch marked for a fault is its excerpt, which is not
empty, and the one marked for a warning is the character that announces the construct. -/
theorem spans_parse (source : String) :
    ((Script.parse source).faults.Pairwise fun f g => f.position < g.position)
      ∧ (∀ f ∈ (Script.parse source).faults, f.excerpt ≠ ""
        ∧ (Diagnostic.ofFault source f).span = ⟨f.position, f.excerpt.utf8ByteSize⟩
        ∧ (Diagnostic.ofFault source f).span.Covers source f.excerpt.toList)
      ∧ ∀ (r : Registry), ∀ w ∈ (Script.parse source).warnings r, ∃ c ∈ ['%', '$', '['],
        (Diagnostic.ofWarning source w).span = ⟨w.position, 1⟩
          ∧ (Diagnostic.ofWarning source w).span.Covers source [c] := by
  refine ⟨pairwise_faults_parse source, fun f hf => ?_, fun r w hw => ?_⟩
  · obtain ⟨hne, hstands⟩ := (located_faults_parse source).stands f hf
    have hspan : (Diagnostic.ofFault source f).span = ⟨f.position, f.excerpt.utf8ByteSize⟩ := by
      rw [Text.utf8ByteSize_eq, ← Span.within_of_standsAt hstands hne, ← Text.utf8ByteSize_eq]
      rfl
    refine ⟨by simpa using hne, hspan, ?_⟩
    rw [hspan]
    exact ⟨hstands, (Text.utf8ByteSize_eq _).symm⟩
  · obtain ⟨node, hnode, hown⟩ := Script.mem_warnings.1 hw
    obtain ⟨text, htext, -, hstands⟩ :=
      (marked_nodes_parse source).stands node.mark (List.mem_map_of_mem hnode)
    obtain ⟨c, hc, rest, rfl⟩ := Node.exists_cons_of_mem_ownWarnings hown htext
    have hposition : w.position = node.position := Node.position_of_mem_ownWarnings hown
    have hsize : byteLength [c] = 1 := by
      rcases (by simpa using hc : c = '%' ∨ c = '$' ∨ c = '[') with rfl | rfl | rfl <;> rfl
    have hchar : StandsAt source.toList w.position [c] := by
      rw [hposition]
      exact hstands.left
    have hspan : (Diagnostic.ofWarning source w).span = ⟨w.position, 1⟩ := by
      rw [← hsize, ← Span.within_of_standsAt hchar (List.cons_ne_nil _ _), hsize]
      rfl
    refine ⟨c, hc, hspan, ?_⟩
    rw [hspan]
    exact ⟨hchar, hsize⟩

/-- A fault and a warning behind a letter of two bytes. -/
theorem spans_parse_group :
    ⟨5, "$x", .expectedParenthesis⟩ ∈ (Script.parse "é[a]$x").faults
      ∧ Warning.alwaysShown 2 ∈ (Script.parse "é[a]$x").warnings .empty
      ∧ (Diagnostic.ofFault "é[a]$x" ⟨5, "$x", .expectedParenthesis⟩).span = ⟨5, 2⟩
      ∧ (Diagnostic.ofWarning "é[a]$x" (.alwaysShown 2)).span = ⟨2, 1⟩ := by
  have hscan : Token.scan "é[a]$x".toList
      = [(0, .plain 'é'), (2, .groupStart), (3, .plain 'a'), (4, .groupEnd),
        (5, .faulty .expectedParenthesis ['$', 'x'])] := by
    have hname : isNameChar 'x' = true := by decide +kernel
    simp [Token.scan_eq, Token.tokens_cons, Token.read, Token.readCallStart, hname,
      Token.withPositions, Token.spelling]
    decide
  have hfault : ⟨5, "$x", .expectedParenthesis⟩ ∈ (Script.parse "é[a]$x").faults := by
    rw [(Script.faults_parse_perm _).mem_iff, hscan]
    decide
  have hnodes : (Script.parse "é[a]$x").nodes
      = [.literal 0 "é", .group 2 [.literal 3 "a"], .literal 5 "$x"] := by
    rw [Script.nodes_parse, hscan]
    rfl
  have hwarning : Warning.alwaysShown 2 ∈ (Script.parse "é[a]$x").warnings .empty := by
    rw [Script.mem_warnings, hnodes]
    exact ⟨.group 2 [.literal 3 "a"], .tail _ (.head _), .head _⟩
  obtain ⟨-, hfaults, hwarnings⟩ := spans_parse "é[a]$x"
  obtain ⟨-, hfaultSpan, -⟩ := hfaults _ hfault
  obtain ⟨c, -, hwarningSpan, -⟩ := hwarnings .empty _ hwarning
  exact ⟨hfault, hwarning, hfaultSpan, hwarningSpan⟩

end TitleScript
