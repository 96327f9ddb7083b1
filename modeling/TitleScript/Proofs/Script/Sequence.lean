import TitleScript.Script.Assembly

/-!
# The sequences of a tree under assembly

Two parts of a step look at what has been assembled before. Adding a node merges literal text into
the literal text before it, and closing a call drops an argument without nodes if it is the only
one. Each has two cases, which are told apart here, so that nothing else has to look into the two
functions.

## Main definitions

* `Node.IsLiteral` — whether a node can be merged
* `resume` — one sequence behind another

## Main results

* `pushNode_cases` — what adding a node does
* `resume_pushNode` — adding a node to a sequence behind another
* `Assembly.finishArgs_of_ne`, `Assembly.finishArgs_ne` — the arguments of a closed call
-/

namespace TitleScript

/-! ### Adding a node -/

/-- Whether the node is text that stands for itself. -/
def Node.IsLiteral : Node → Prop
  | .literal _ _ => True
  | _ => False

/-- A node is merged into the last one or added as it is. -/
theorem pushNode_cases (nodes : List Node) (node : Node) :
    (∃ position text rest position' more,
        nodes = .literal position text :: rest ∧ node = .literal position' more
          ∧ pushNode nodes node = .literal position (text ++ more) :: rest)
      ∨ (∀ last ∈ nodes.head?, ¬(node.IsLiteral ∧ last.IsLiteral))
          ∧ pushNode nodes node = node :: nodes := by
  cases nodes with
  | nil => exact .inr ⟨by simp, by cases node <;> rfl⟩
  | cons last rest => cases last with
    | literal position text => cases node with
      | literal position' more => exact .inl ⟨position, text, rest, position', more, rfl, rfl, rfl⟩
      | _ => exact .inr ⟨by simp [Node.IsLiteral], rfl⟩
    | _ => exact .inr ⟨by simp [Node.IsLiteral], by cases node <;> rfl⟩

/-- A node that cannot be merged with the last one is added as it is. -/
theorem pushNode_of_not_isLiteral {nodes : List Node} {node : Node}
    (h : ∀ last ∈ nodes.head?, ¬(node.IsLiteral ∧ last.IsLiteral)) :
    pushNode nodes node = node :: nodes := by
  obtain ⟨position, text, rest, position', more, rfl, rfl, -⟩ | ⟨-, heq⟩ :=
    pushNode_cases nodes node
  · exact absurd ⟨trivial, trivial⟩ (h _ rfl)
  · exact heq

/-- A single node that is no text has been added to nothing. -/
theorem eq_of_pushNode_eq_singleton {nodes : List Node} {node node' : Node}
    (h : pushNode nodes node = [node']) :
    nodes = [] ∧ node = node' ∨ node.IsLiteral ∧ node'.IsLiteral := by
  obtain ⟨position, text, rest, position', more, rfl, rfl, heq⟩ | ⟨-, heq⟩ :=
    pushNode_cases nodes node
  · rw [heq] at h
    obtain ⟨rfl, -⟩ := List.cons.inj h
    exact .inr ⟨trivial, trivial⟩
  · rw [heq] at h
    obtain ⟨rfl, rfl⟩ := List.cons.inj h
    exact .inl ⟨rfl, rfl⟩

/-- Adding text to text is adding the two at once. -/
theorem pushNode_literal_literal (nodes : List Node) (position position' : Nat)
    (text more : String) :
    pushNode (pushNode nodes (.literal position text)) (.literal position' more)
      = pushNode nodes (.literal position (text ++ more)) := by
  cases nodes with
  | nil => rfl
  | cons last nodes => cases last <;> simp [pushNode, String.append_assoc]

/-- Two sequences, last node first, as one, with literal text merged where they meet. -/
def resume (before nodes : List Node) : List Node := nodes.reverse.foldl pushNode before

theorem resume_cons (before : List Node) (node : Node) (nodes : List Node) :
    resume before (node :: nodes) = pushNode (resume before nodes) node := by
  simp [resume]

/-- A node can be added before or after the two sequences become one. -/
theorem resume_pushNode (before nodes : List Node) (node : Node) :
    resume before (pushNode nodes node) = pushNode (resume before nodes) node := by
  obtain ⟨position, text, rest, position', more, rfl, rfl, heq⟩ | ⟨-, heq⟩ :=
    pushNode_cases nodes node
  · rw [heq, resume_cons, resume_cons, pushNode_literal_literal]
  · rw [heq, resume_cons]

/-! ### The arguments of a call -/

theorem intercalate_append_singleton (sep : List Char) (sources : List (List Char))
    (source : List Char) :
    sep.intercalate (sources ++ [source]) = sources.flatMap (· ++ sep) ++ source := by
  induction sources with
  | nil => simp
  | cons first sources ih =>
    rw [List.cons_append, List.intercalate_cons_of_ne_nil (by simp), ih]
    simp

namespace Assembly

theorem finishArgs_of_ne {args : List (List Node)} (h : args ≠ [[]]) :
    finishArgs args = args.reverse := by
  match args with
  | [] => rfl
  | [[]] => exact absurd rfl h
  | [] :: _ :: _ => rfl
  | (_ :: _) :: _ => rfl

theorem finishArgs_ne (args : List (List Node)) : finishArgs args ≠ [[]] := by
  by_cases h : args = [[]]
  · rw [h]
    exact (List.cons_ne_nil _ _).symm
  · rw [finishArgs_of_ne h]
    exact fun heq => h (List.reverse_eq_iff.1 heq)

theorem finishArgs_reverse {args : List (List Node)} (h : args ≠ [[]]) :
    finishArgs args.reverse = args := by
  have hne : args.reverse ≠ [[]] := fun heq => h (List.reverse_eq_iff.1 heq)
  rw [finishArgs_of_ne hne, List.reverse_reverse]

theorem mem_of_mem_finishArgs {args : List (List Node)} {arg : List Node}
    (h : arg ∈ finishArgs args) : arg ∈ args := by
  by_cases hne : args = [[]]
  · rw [hne] at h
    exact absurd h List.not_mem_nil
  · rw [finishArgs_of_ne hne] at h
    exact List.mem_reverse.1 h

/-- Whether a call has one argument without nodes or none makes no difference to what is written
between its parentheses. -/
theorem intercalate_map_finishArgs {f : List Node → List Char} (hf : f [] = []) (arg : List Node)
    (args : List (List Node)) :
    [','].intercalate ((finishArgs (arg :: args)).map f)
      = args.reverse.flatMap (fun arg => f arg ++ [',']) ++ f arg := by
  by_cases h : arg :: args = [[]]
  · obtain ⟨rfl, rfl⟩ := List.cons.inj h
    simp [finishArgs, hf]
  · rw [finishArgs_of_ne h, List.reverse_cons, List.map_append, List.map_singleton,
      intercalate_append_singleton, List.flatMap_map]

end Assembly

end TitleScript
