import TitleScript.Text.Cluster

/-!
# Counting user-perceived characters

Whether a character begins a cluster depends on what is before it, and only through the state of the
cluster there. So the clusters of a text can be counted from left to right without taking the text
apart, and the count of two texts put together is that of the first, and what begins in the second
behind the state in which the first ends. Nothing joins a control character, and nothing can join
what is before the beginning of a text, so the count begins behind the state of a control.

Characters that are put behind a text add a cluster each at most. A character that is put there
several times adds as many clusters only if it joins neither the text nor itself.

## Main definitions

* `ClusterState.after` — the state behind one more character, which may begin a cluster
* `Text.begun` — how many clusters begin in a text
* `Text.endState` — the state in which a text ends

## Main results

* `Text.length_eq_begun` — the length of a text by counting
* `Text.length_append` — the length of two texts put together
* `Text.length_append_replicate_iff` — when every one of several equal characters counts
-/

namespace TitleScript

/-- The state behind one more character, whether it stays in the cluster or begins the next one. -/
def ClusterState.after (state : ClusterState) (c : Char) : ClusterState :=
  if state.joins (.ofChar c) then state.next (.ofChar c) else .start (.ofChar c)

namespace Text

/-! ### Counting -/

/-- The number of clusters that begin in a text that stands behind a state. -/
def begun (state : ClusterState) : List Char → Nat
  | [] => 0
  | c :: cs => (if state.joins (.ofChar c) then 0 else 1) + begun (state.after c) cs

/-- The state before a text: no character joins a control. -/
def beginState : ClusterState := .start .control

/-- The state in which a text ends. -/
def endState (cs : List Char) : ClusterState :=
  cs.foldl ClusterState.after beginState

theorem joins_beginState (k : ClusterClass) : beginState.joins k = false := by
  cases k <;> rfl

/-- Every cluster that is not finished yet, and every one that begins, becomes a piece. -/
theorem length_piecesFrom (state : ClusterState) (piece : List Char) (done : List (List Char))
    (cs : List Char) :
    (clusterSegmenter.piecesFrom state piece done cs).length
      = done.length + 1 + begun state cs := by
  induction cs generalizing state piece done with
  | nil => rw [Segmenter.piecesFrom, List.length_reverse, List.length_cons, begun]
  | cons c cs ih =>
    rw [Segmenter.piecesFrom, begun, ClusterState.after]
    cases hjoins : state.joins (.ofChar c) with
    | true =>
      have hadvance : clusterSegmenter.advance state c cs = some (state.next (.ofChar c)) :=
        if_pos hjoins
      rw [hadvance, if_pos rfl, if_pos rfl, Nat.zero_add]
      exact ih ..
    | false =>
      have hadvance : clusterSegmenter.advance state c cs = none :=
        if_neg (Bool.eq_false_iff.1 hjoins)
      rw [hadvance, if_neg Bool.false_ne_true, if_neg Bool.false_ne_true]
      refine (ih ..).trans ?_
      rw [List.length_cons, Nat.add_assoc]
      rfl

/-- The clusters of a text are those that begin in it. -/
theorem length_eq_begun (s : String) : Text.length s = begun beginState s.toList := by
  rw [Text.length, clusters]
  cases s.toList with
  | nil => rfl
  | cons c cs =>
    have hfirst : beginState.joins (.ofChar c) = false := joins_beginState _
    rw [Segmenter.pieces, length_piecesFrom, begun, ClusterState.after, hfirst]
    rfl

theorem begun_append (state : ClusterState) (cs ds : List Char) :
    begun state (cs ++ ds) = begun state cs + begun (cs.foldl ClusterState.after state) ds := by
  induction cs generalizing state with
  | nil => rw [List.nil_append, begun, Nat.zero_add, List.foldl_nil]
  | cons c cs ih => rw [List.cons_append, begun, begun, ih, List.foldl_cons, Nat.add_assoc]

/-- **The length of two texts put together**: that of the first, and what begins in the second. -/
theorem length_append (s t : String) :
    Text.length (s ++ t) = Text.length s + begun (endState s.toList) t.toList := by
  rw [length_eq_begun, length_eq_begun, String.toList_append, begun_append, endState]

/-- No more clusters begin than there are characters. -/
theorem begun_le_length (state : ClusterState) (cs : List Char) : begun state cs ≤ cs.length := by
  induction cs generalizing state with
  | nil => exact Nat.le_refl 0
  | cons c cs ih =>
    have hrest := ih (state.after c)
    have hone : (if state.joins (.ofChar c) then 0 else 1) ≤ 1 := by split <;> decide
    rw [begun, List.length_cons]
    omega

/-- Text that is put behind a text adds a cluster for each of its characters at most. -/
theorem length_append_le (s t : String) :
    Text.length s ≤ Text.length (s ++ t) ∧ Text.length (s ++ t) ≤ Text.length s + t.length := by
  have hle := begun_le_length (endState s.toList) t.toList
  rw [String.length_toList] at hle
  rw [length_append]
  omega

/-! ### One character over and over -/

variable (state : ClusterState) (c : Char) (n : Nat)

/-- A character that stays in the cluster is lost, and its repetitions cannot make up for it. -/
theorem begun_replicate_le_of_joins {state : ClusterState} {c : Char}
    (h : state.joins (.ofChar c) = true) : begun state (List.replicate (n + 1) c) ≤ n := by
  have hrest := begun_le_length (state.after c) (List.replicate n c)
  rw [List.length_replicate] at hrest
  rw [List.replicate_succ, begun, if_pos h, Nat.zero_add]
  exact hrest

/-- Behind one that begins a cluster, the others count as they count behind it alone. -/
theorem begun_replicate_of_not_joins {state : ClusterState} {c : Char}
    (h : state.joins (.ofChar c) = false) :
    begun state (List.replicate (n + 1) c)
      = begun (.start (.ofChar c)) (List.replicate n c) + 1 := by
  have hstate : ¬state.joins (.ofChar c) := Bool.eq_false_iff.1 h
  rw [List.replicate_succ, begun, ClusterState.after, if_neg hstate, if_neg hstate, Nat.add_comm]

/-- A character that does not join itself begins a cluster each time. -/
theorem begun_start_replicate {c : Char}
    (h : (ClusterState.start (.ofChar c)).joins (.ofChar c) = false) :
    begun (.start (.ofChar c)) (List.replicate n c) = n := by
  induction n with
  | zero => rfl
  | succ n ih => rw [begun_replicate_of_not_joins n h, ih]

/-- Each of several equal characters begins a cluster exactly if the first does, and the second, if
there is one, does not join it. -/
theorem begun_replicate_eq_iff :
    begun state (List.replicate n c) = n
      ↔ n = 0 ∨ state.joins (.ofChar c) = false
        ∧ (n = 1 ∨ (ClusterState.start (.ofChar c)).joins (.ofChar c) = false) := by
  obtain _ | n := n
  · exact iff_of_true rfl (.inl rfl)
  cases hfirst : state.joins (.ofChar c) with
  | true =>
    have hle := begun_replicate_le_of_joins n hfirst
    simp only [Bool.true_eq_false, false_and, or_false]
    omega
  | false =>
    rw [begun_replicate_of_not_joins n hfirst]
    cases hself : (ClusterState.start (.ofChar c)).joins (.ofChar c) with
    | true =>
      obtain _ | n := n
      · exact iff_of_true rfl (.inr ⟨rfl, .inl rfl⟩)
      · have hle := begun_replicate_le_of_joins n hself
        simp only [Bool.true_eq_false, or_false, true_and]
        omega
    | false =>
      rw [begun_start_replicate n hself]
      exact iff_of_true rfl (.inr ⟨rfl, .inr rfl⟩)

theorem length_append_singleton (s : String) :
    Text.length (s ++ String.singleton c) = Text.length s + 1
      ↔ (endState s.toList).joins (.ofChar c) = false := by
  rw [length_append, String.toList_singleton, begun, begun]
  cases (endState s.toList).joins (.ofChar c) <;> simp

theorem length_pair :
    Text.length (String.singleton c ++ String.singleton c) = 2
      ↔ (ClusterState.start (.ofChar c)).joins (.ofChar c) = false := by
  have hone : Text.length (String.singleton c) = 1 := by
    rw [Text.length, String.toList_singleton]
    rfl
  have hstate : endState (String.singleton c).toList = .start (.ofChar c) := by
    rw [String.toList_singleton, endState, List.foldl_cons, List.foldl_nil, ClusterState.after,
      joins_beginState]
    rfl
  rw [← hstate, ← length_append_singleton, hone]

/-- **When every one of several equal characters behind a text counts**: if there are any, one of
them must be a cluster of its own behind the text, and if there are more, behind another one. -/
theorem length_append_replicate_iff (s : String) :
    Text.length (s ++ String.ofList (List.replicate n c)) = Text.length s + n
      ↔ n = 0 ∨ Text.length (s ++ String.singleton c) = Text.length s + 1
        ∧ (n = 1 ∨ Text.length (String.singleton c ++ String.singleton c) = 2) := by
  rw [length_append_singleton, length_pair, length_append, String.toList_ofList,
    Nat.add_left_cancel_iff, begun_replicate_eq_iff]

end Text

end TitleScript
