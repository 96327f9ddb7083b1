import Mathlib.Data.List.Induction
import TitleScript.Proofs.Script.Grammar
import TitleScript.Proofs.Script.Nesting

/-!
# Reading inside of something else

A source is seldom read on its own: it stands behind another one, or between the brackets of a
group. What it is assembled to on its own is then found again on top of what was there before. The
sequence at its bottom goes on behind the sequence that was being read, and its frames stand above
those that were open.

Behind a source that has closed everything it opened this is so for every source. Inside a group it
is not: a closing bracket without a partner closes the group, and the limit on open constructs is
reached one level earlier. But a source without a fault has no such bracket, and how deep its tree
nests says how many constructs were open at once.

## Main definitions

* `Assembly.behind` — one tree under assembly on top of another

## Main results

* `Assembly.foldl_step_behind` — any source behind one that has closed everything
* `Assembly.foldl_step_behind_group` — a source without a fault inside a group
* `Assembly.finish_behind` — the end of a source behind one that has closed everything
-/

namespace TitleScript

namespace Assembly

/-! ### One tree under assembly on top of another -/

/-- The sequence and the frames of a tree under assembly, on top of those of another. The sequence
at the bottom is the one that goes on behind what was there before. -/
def stackBehind (base : Assembly) (nodes : List Node) : List Frame → List Node × List Frame
  | [] => (resume base.nodes nodes, base.frames)
  | ⟨opening, position, outer⟩ :: frames =>
    (nodes, ⟨opening, position, (stackBehind base outer frames).1⟩
      :: (stackBehind base outer frames).2)

/-- What has been assembled so far, where it was read behind what `base` was assembled from. -/
def behind (a base : Assembly) : Assembly :=
  ⟨(stackBehind base a.nodes a.frames).1, (stackBehind base a.nodes a.frames).2,
    a.faults ++ base.faults⟩

variable {a base : Assembly}

theorem empty_behind (base : Assembly) : empty.behind base = base := rfl

theorem behind_of_frames_eq_nil (h : a.frames = []) :
    a.behind base = ⟨resume base.nodes a.nodes, base.frames, a.faults ++ base.faults⟩ := by
  rw [behind, h]
  rfl

theorem stackBehind_pushNode (base : Assembly) (nodes : List Node) (node : Node)
    (frames : List Frame) :
    stackBehind base (pushNode nodes node) frames
      = (pushNode (stackBehind base nodes frames).1 node, (stackBehind base nodes frames).2) := by
  cases frames with
  | nil => simp only [stackBehind, resume_pushNode]
  | cons frame frames => rfl

theorem stackBehind_foldl_pushNode (base : Assembly) (nodes more : List Node)
    (frames : List Frame) :
    stackBehind base (more.foldl pushNode nodes) frames
      = (more.foldl pushNode (stackBehind base nodes frames).1,
          (stackBehind base nodes frames).2) := by
  induction more generalizing nodes with
  | nil => rfl
  | cons node more ih => rw [List.foldl_cons, ih, stackBehind_pushNode, List.foldl_cons]

theorem length_frames_behind (a base : Assembly) :
    (a.behind base).frames.length = a.frames.length + base.frames.length := by
  obtain ⟨nodes, frames, faults⟩ := a
  show (stackBehind base nodes frames).2.length = _
  induction frames generalizing nodes with
  | nil => exact (Nat.zero_add _).symm
  | cons frame frames ih =>
    have hframes := ih frame.outer
    simp only [stackBehind, List.length_cons, hframes]
    omega

/-! ### Steps -/

theorem behind_push (a base : Assembly) (node : Node) :
    (a.push node).behind base = (a.behind base).push node := by
  simp only [behind, push, stackBehind_pushNode]

theorem behind_pushText (a base : Assembly) (position : Nat) (text : List Char) :
    (a.pushText position text).behind base = (a.behind base).pushText position text :=
  behind_push a base _

theorem behind_fault (a base : Assembly) (position : Nat) (cause : Fault.Cause)
    (source : List Char) :
    (a.fault position cause source).behind base = (a.behind base).fault position cause source := by
  rw [fault, fault, ← behind_pushText]
  rfl

/-- A construct finds as much room as it does on its own. -/
theorem behind_openFrame
    (h : a.frames.length < maxDepth ↔ a.frames.length + base.frames.length < maxDepth)
    (position : Nat) (opening : Opening) (source : List Char) :
    (a.openFrame position opening source).behind base
      = (a.behind base).openFrame position opening source := by
  rw [openFrame, openFrame, length_frames_behind]
  by_cases hlt : a.frames.length < maxDepth
  · rw [if_pos hlt, if_pos (h.1 hlt)]
    rfl
  · rw [if_neg hlt, if_neg (mt h.2 hlt), behind_fault]

/-- Characters mean the same at the top and directly in a group. -/
theorem behind_plainChar
    (h : Place.inside base.frames = .top ∨ Place.inside base.frames = .group)
    (position : Nat) (c : Char) :
    (a.plainChar position c).behind base = (a.behind base).plainChar position c := by
  obtain ⟨nodes, frames, faults⟩ := a
  match frames with
  | [] =>
    have htext : (behind ⟨nodes, [], faults⟩ base).plainChar position c
        = (behind ⟨nodes, [], faults⟩ base).pushText position [c] := by
      rw [behind_of_frames_eq_nil rfl]
      obtain ⟨nodes', frames', faults'⟩ := base
      match frames' with
      | [] | ⟨.group, _, _⟩ :: _ => rfl
      | ⟨.call name args 0, _, _⟩ :: _ | ⟨.call name args (n + 1), _, _⟩ :: _ =>
        simp [Place.inside, Place.inArgument] at h
    rw [htext, ← behind_pushText]
    rfl
  | ⟨.group, start, outer⟩ :: frames => exact behind_pushText ..
  | ⟨.call name args n, start, outer⟩ :: frames =>
    simp only [plainChar, behind, stackBehind]
    unfold argumentChar
    split <;> simp_all [pushText, push, stackBehind_pushNode, stackBehind]

/-- A closing bracket closes what it closes on its own. -/
theorem behind_closeGroup (h : a.frames ≠ [] ∨ base.frames = []) (position : Nat) :
    (a.closeGroup position).behind base = (a.behind base).closeGroup position := by
  obtain ⟨nodes, frames, faults⟩ := a
  match frames with
  | [] =>
    obtain ⟨nodes', frames', faults'⟩ := base
    obtain rfl : frames' = [] := by simpa using h
    exact behind_fault ..
  | ⟨.call name args n, start, outer⟩ :: frames => exact behind_fault ..
  | ⟨.group, start, outer⟩ :: frames =>
    simp only [closeGroup, behind, stackBehind, stackBehind_pushNode]

/-- Where nothing is open, every token does what it does on its own. -/
theorem behind_step (h : base.frames = []) (x : Nat × Token) :
    (a.step x).behind base = (a.behind base).step x := by
  have hroom : a.frames.length < maxDepth ↔ a.frames.length + base.frames.length < maxDepth := by
    rw [h, List.length_nil, Nat.add_zero]
  obtain ⟨position, t⟩ := x
  cases t with
  | plain c => exact behind_plainChar (.inl (by rw [h]; rfl)) position c
  | escaped c => exact behind_pushText ..
  | quoted text | field name | fieldList name => exact behind_push ..
  | callStart name | groupStart => exact behind_openFrame hroom ..
  | groupEnd => exact behind_closeGroup (.inr h) position
  | faulty cause source => exact behind_fault ..

/-- In a group, a token without a fault does what it does on its own, if there is room for the
constructs that are then open. -/
theorem behind_step_group (h : Place.inside base.frames = .group) {x : Nat × Token}
    (hfaults : (a.step x).faults = [])
    (hroom : (a.step x).frames.length + base.frames.length ≤ maxDepth) :
    (a.step x).behind base = (a.behind base).step x := by
  have hopen {position : Nat} {opening : Opening} {source : List Char}
      (hfaults : (a.openFrame position opening source).faults = [])
      (hroom : (a.openFrame position opening source).frames.length + base.frames.length
        ≤ maxDepth) :
      (a.openFrame position opening source).behind base
        = (a.behind base).openFrame position opening source := by
    refine behind_openFrame ?_ ..
    by_cases hlt : a.frames.length < maxDepth
    · rw [openFrame_of_lt hlt, List.length_cons] at hroom
      omega
    · rw [openFrame, if_neg hlt] at hfaults
      cases hfaults
  obtain ⟨position, t⟩ := x
  cases t with
  | plain c => exact behind_plainChar (.inr h) position c
  | escaped c => exact behind_pushText ..
  | quoted text | field name | fieldList name => exact behind_push ..
  | callStart name | groupStart => exact hopen hfaults hroom
  | groupEnd =>
    refine behind_closeGroup (.inl fun hnil => ?_) position
    rw [step, closeGroup, hnil] at hfaults
    cases hfaults
  | faulty cause source => exact behind_fault ..

/-! ### Runs -/

/-- **Behind a source that has closed everything, tokens assemble to what they assemble to on their
own.** -/
theorem foldl_step_behind (h : base.frames = []) (a : Assembly) (xs : List (Nat × Token)) :
    (xs.foldl step a).behind base = xs.foldl step (a.behind base) := by
  induction xs generalizing a with
  | nil => rfl
  | cons x xs ih => rw [List.foldl_cons, ih, behind_step h, List.foldl_cons]

/-- **In a group, tokens that assemble without a fault assemble to what they assemble to on their
own**, if there is room for how deep that nests. -/
theorem foldl_step_behind_group (h : Place.inside base.frames = .group) {xs : List (Nat × Token)}
    (hxs : ∀ x ∈ xs, x.2.WellFormed) (hfaults : (xs.foldl step a).faults = [])
    (hroom : (xs.foldl step a).nesting + base.frames.length ≤ maxDepth) :
    (xs.foldl step a).behind base = xs.foldl step (a.behind base) := by
  -- from the end: if there was no fault and room enough after the last token, so there was before
  induction xs using List.reverseRecOn with
  | nil => rfl
  | append_singleton xs x ih =>
    obtain ⟨position, t⟩ := x
    obtain ⟨hinit, hlast⟩ := List.forall_mem_append.1 hxs
    simp only [List.foldl_append, List.foldl_cons, List.foldl_nil] at hfaults hroom ⊢
    have heffect : Effect (xs.foldl step a) position t _ :=
      effect_step (hlast _ (List.mem_singleton_self _))
    have hnesting := nesting_le_of_effect heffect
    have hframes := length_frames_le_nesting ((xs.foldl step a).step (position, t))
    rw [behind_step_group h hfaults (by omega),
      ih hinit (heffect.faults_eq_nil hfaults) (by omega)]

/-! ### The end of the source -/

theorem unwind_stackBehind (h : base.frames = []) (nodes : List Node) (faults : List Fault)
    (frames : List Frame) :
    unwind (stackBehind base nodes frames).1 faults (stackBehind base nodes frames).2
      = (resume base.nodes (unwind nodes faults frames).1, (unwind nodes faults frames).2) := by
  induction frames generalizing nodes faults with
  | nil => simp only [stackBehind, h, unwind]
  | cons frame frames ih =>
    obtain ⟨opening, start, outer⟩ := frame
    cases opening with
    | group =>
      simp only [stackBehind, unwind]
      rw [← ih, stackBehind_foldl_pushNode, stackBehind_pushNode]
    | call name args n =>
      simp only [stackBehind, unwind]
      rw [← ih, stackBehind_pushNode]

/-- What the end of a source leaves, where it was read behind one that has closed everything. -/
theorem finish_behind (h : base.frames = []) (hfaults : base.faults = []) (a : Assembly) :
    (a.behind base).finish
      = ((resume base.nodes a.finish.1.reverse).reverse, a.finish.2) := by
  simp only [finish, behind, hfaults, List.append_nil, unwind_stackBehind h, List.reverse_reverse]

end Assembly

end TitleScript
