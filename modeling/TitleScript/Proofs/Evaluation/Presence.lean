import TitleScript.Proofs.Evaluation.Walk
import TitleScript.Proofs.Registry

/-!
# When a group is shown

A group is there to be shown when everything inside it is present. What it means for a node to be
absent can be said without flags: it does not resolve, or the text it reads from the record or from
the branch is missing or empty, or there is a node inside it that is absent.

Flags find out about this in one pass from the inside out. They survive on their way for different
reasons: a sequence and a function that looks at all of its arguments let the flags of their parts
stick, and a group that is not shown keeps the flags of its content, while one that is shown has
nothing absent to report. So a group is shown exactly when no node inside it, at any depth, is
absent.

A function that chooses would break this, since it can leave out an argument that is absent.

## Main definitions

* `Node.Absent` — what is absent in a context

## Main results

* `Node.Absent.of_mem_preorder` — a node with an absent node inside is absent
* `Node.isPresent_eval_iff` — flags tell which nodes are absent
* `groups_shown_iff` — when a script is present, and when its groups are shown
-/

namespace TitleScript

namespace Node

/-- What is absent in a context: names that do not resolve, fields and look-ups without text, and
whatever has something absent inside. -/
inductive Absent (r : Registry) (ctx : Context) : Node → Prop
  | unknownField {p : Nat} {name : String} (h : r.resolvesField name = false) :
    Absent r ctx (field p name)
  | emptyField {p : Nat} {name : String} (h : ctx.fieldText name = "") : Absent r ctx (field p name)
  | unknownFieldList {p : Nat} {name : String} (h : r.resolvesField name = false) :
    Absent r ctx (fieldList p name)
  | emptyFieldList {p : Nat} {name : String} (h : ctx.boundText name = "") :
    Absent r ctx (fieldList p name)
  | unknownFunction {p : Nat} {name : String} {args : List (List Node)}
    (h : r.function? name = none) : Absent r ctx (call p name args)
  | rejected {p : Nat} {name : String} {args : List (List Node)} {f : Function}
    (hf : r.function? name = some f) (h : f.arity.accepts args.length = false) :
    Absent r ctx (call p name args)
  | emptyLookup {p : Nat} {name : String} {args : List (List Node)} {f : Function} {b : Builtin}
    (hf : r.function? name = some f) (hbody : f.body = .builtin b)
    (h : Lookup.foundText? ctx (args.map (evalSequence r ctx)) b = some "") :
    Absent r ctx (call p name args)
  | insideCall {p : Nat} {name : String} {args : List (List Node)} {inner : Node}
    (hinner : inner ∈ preorderOfArgs args) (h : Absent r ctx inner) :
    Absent r ctx (call p name args)
  | insideGroup {p : Nat} {content : List Node} {inner : Node}
    (hinner : inner ∈ preorderOf content) (h : Absent r ctx inner) : Absent r ctx (group p content)

variable {r : Registry} {ctx : Context}

/-- What has something absent inside is absent. -/
theorem Absent.of_mem_preorder {node inner : Node} (h : inner.Absent r ctx)
    (hinner : inner ∈ node.preorder) : node.Absent r ctx := by
  cases node with
  | literal p text | quoted p text | field p name | fieldList p name =>
    rw [List.mem_singleton.1 hinner] at h
    exact h
  | call p name args =>
    rcases List.mem_cons.1 hinner with rfl | hinside
    · exact h
    · exact .insideCall hinside h
  | group p content =>
    rcases List.mem_cons.1 hinner with rfl | hinside
    · exact h
    · exact .insideGroup hinside h

/-- Nothing in a sequence is absent if its own nodes are not. -/
theorem forall_not_absent_preorderOf {nodes : List Node} :
    (∀ inner ∈ preorderOf nodes, ¬ inner.Absent r ctx)
      ↔ ∀ node ∈ nodes, ¬ node.Absent r ctx := by
  rw [forall_mem_preorderOf]
  refine forall₂_congr fun node _ => ⟨fun h => h node node.self_mem_preorder, ?_⟩
  intro h inner hinner habsent
  exact h (habsent.of_mem_preorder hinner)

theorem forall_not_absent_preorderOfArgs {args : List (List Node)} :
    (∀ inner ∈ preorderOfArgs args, ¬ inner.Absent r ctx)
      ↔ ∀ arg ∈ args, ∀ node ∈ arg, ¬ node.Absent r ctx := by
  rw [preorderOfArgs_eq, List.forall_mem_flatMap]
  exact forall₂_congr fun arg _ => forall_not_absent_preorderOf

/-! ### What makes a construct absent -/

section Constructs

variable {p : Nat} {name : String} {args : List (List Node)} {content : List Node}

theorem not_absent_field_iff :
    ¬ (field p name).Absent r ctx ↔ r.resolvesField name ∧ ctx.fieldText name ≠ "" := by
  constructor
  · intro h
    exact ⟨Bool.of_not_eq_false fun hunknown => h (.unknownField hunknown),
      fun hempty => h (.emptyField hempty)⟩
  · rintro ⟨hknown, htext⟩ habsent
    cases habsent with
    | unknownField hunknown => exact Bool.eq_false_iff.1 hunknown hknown
    | emptyField hempty => exact htext hempty

theorem not_absent_fieldList_iff :
    ¬ (fieldList p name).Absent r ctx ↔ r.resolvesField name ∧ ctx.boundText name ≠ "" := by
  constructor
  · intro h
    exact ⟨Bool.of_not_eq_false fun hunknown => h (.unknownFieldList hunknown),
      fun hempty => h (.emptyFieldList hempty)⟩
  · rintro ⟨hknown, htext⟩ habsent
    cases habsent with
    | unknownFieldList hunknown => exact Bool.eq_false_iff.1 hunknown hknown
    | emptyFieldList hempty => exact htext hempty

theorem absent_call_of_resolves_eq_false (h : (call p name args).resolves r = false) :
    (call p name args).Absent r ctx := by
  rw [resolves] at h
  cases hf : r.function? name with
  | none => exact .unknownFunction hf
  | some f =>
    rw [hf, Option.any_some] at h
    exact .rejected hf h

/-- A call of a built-in function that resolves is absent if it finds no text where it looks for
some, or if something in its arguments is absent. -/
theorem not_absent_call_iff {f : Function} {b : Builtin} (hself : (call p name args).resolves r)
    (hf : r.function? name = some f) (hbody : f.body = .builtin b) :
    ¬ (call p name args).Absent r ctx
      ↔ Lookup.foundText? ctx (args.map (evalSequence r ctx)) b ≠ some ""
        ∧ ∀ arg ∈ args, ∀ node ∈ arg, ¬ node.Absent r ctx := by
  rw [← forall_not_absent_preorderOfArgs]
  constructor
  · intro h
    exact ⟨fun hfound => h (.emptyLookup hf hbody hfound),
      fun inner hinner habsent => h (.insideCall hinner habsent)⟩
  · rintro ⟨hfound, hargs⟩ habsent
    rw [resolves, hf, Option.any_some] at hself
    cases habsent with
    | unknownFunction hnone =>
      rw [hf] at hnone
      contradiction
    | rejected hf' hrejected =>
      obtain rfl := Option.some_inj.1 (hf.symm.trans hf')
      exact Bool.eq_false_iff.1 hrejected hself
    | emptyLookup hf' hbody' hempty =>
      obtain rfl := Option.some_inj.1 (hf.symm.trans hf')
      obtain rfl := Function.Body.builtin.inj (hbody.symm.trans hbody')
      exact hfound hempty
    | insideCall hinner hinside => exact hargs _ hinner hinside

theorem not_absent_group_iff :
    ¬ (group p content).Absent r ctx ↔ ∀ node ∈ content, ¬ node.Absent r ctx := by
  rw [← forall_not_absent_preorderOf]
  constructor
  · intro h inner hinner habsent
    exact h (.insideGroup hinner habsent)
  · intro h habsent
    cases habsent with
    | insideGroup hinner hinside => exact h _ hinner hinside

end Constructs

/-! ### What the flags say -/

theorem isPresent_field_iff {known : Bool} {text : String} :
    (if known then Outcome.ofField text else .unresolved).isPresent ↔ known ∧ text ≠ "" := by
  cases known <;> simp

/-- **Flags tell which nodes are absent**, where no function leaves out arguments. -/
theorem isPresent_eval_iff (hbuiltins : r.OnlyBuiltins) (node : Node)
    (heager : ∀ inner ∈ node.preorder, inner.isEager r) :
    (node.eval r ctx).isPresent ↔ ¬ node.Absent r ctx := by
  induction node using Node.induction with
  | literal p text | quoted p text =>
    refine ⟨fun _ habsent => ?_, fun _ => rfl⟩
    cases habsent
  | field p name => rw [eval, evalField_eq, isPresent_field_iff, not_absent_field_iff]
  | fieldList p name => rw [eval, evalFieldList_eq, isPresent_field_iff, not_absent_fieldList_iff]
  | call p name args ih =>
    rw [forall_mem_preorder_call] at heager
    by_cases hself : (call p name args).resolves r
    · obtain ⟨f, hf, heval⟩ := eval_call_of_resolves ctx hself
      obtain ⟨b, hbody⟩ := hbuiltins name f hf
      have hstrategy := strategy_of_isEager heager.1 hself hf
      have hargs : (∀ o ∈ args.map (evalSequence r ctx), o.isPresent)
          ↔ ∀ arg ∈ args, ∀ node ∈ arg, ¬ node.Absent r ctx := by
        rw [List.forall_mem_map]
        refine forall₂_congr fun arg harg => ?_
        rw [isPresent_evalSequence]
        exact forall₂_congr fun node hnode =>
          ih arg harg node hnode (heager.2 arg harg node hnode)
      rw [heval, f.isPresent_apply_of_eager ctx _ hstrategy, f.run_of_body ctx _ hbody,
        b.isPresent_run_of_eager ctx _ (f.strategy_of_body hbody ▸ hstrategy), hargs,
        not_absent_call_iff hself hf hbody]
    · have hself := Bool.eq_false_iff.2 hself
      rw [eval_of_resolves_eq_false hself]
      exact iff_of_false (by simp) fun h => h (absent_call_of_resolves_eq_false hself)
  | group p content ih =>
    rw [forall_mem_preorder_group] at heager
    rw [eval_group, isPresent_evalGroup, isPresent_evalSequence, not_absent_group_iff]
    exact forall₂_congr fun node hnode => ih node hnode (heager.2 node hnode)

theorem isPresent_evalSequence_iff (hbuiltins : r.OnlyBuiltins) {nodes : List Node}
    (heager : ∀ node ∈ preorderOf nodes, node.isEager r) :
    (evalSequence r ctx nodes).isPresent ↔ ∀ node ∈ preorderOf nodes, ¬ node.Absent r ctx := by
  rw [forall_mem_preorderOf] at heager
  rw [isPresent_evalSequence, forall_not_absent_preorderOf]
  exact forall₂_congr fun node hnode => isPresent_eval_iff hbuiltins node (heager node hnode)

/-- A group with something absent inside is not shown. -/
theorem text_eval_group_of_absent (hbuiltins : r.OnlyBuiltins) {p : Nat} {content : List Node}
    (heager : ∀ node ∈ preorderOf content, node.isEager r) {inner : Node}
    (hinner : inner ∈ preorderOf content) (habsent : inner.Absent r ctx) :
    ((group p content).eval r ctx).text = "" := by
  have hcontent : (evalSequence r ctx content).isPresent = false := by
    rw [← Bool.not_eq_true, isPresent_evalSequence_iff hbuiltins heager]
    exact fun h => h inner hinner habsent
  rw [eval_group, evalGroup_of_not_isPresent hcontent]

end Node

/-- **A group is shown exactly when everything inside it is present.** In a script whose functions
are built-in ones that leave out no arguments, no name fails and no field is empty exactly if no
node is absent. A group with nothing absent inside is its content, with flags that say nothing. One
with something absent inside is empty, and so is each group around it. -/
theorem groups_shown_iff {r : Registry} (hbuiltins : r.OnlyBuiltins) {nodes : List Node}
    (heager : ∀ node ∈ Node.preorderOf nodes, node.isEager r) (ctx : Context) :
    ((Node.evalSequence r ctx nodes).success = true
        ∧ (Node.evalSequence r ctx nodes).isEmpty = false
        ↔ ∀ node ∈ Node.preorderOf nodes, ¬ node.Absent r ctx)
      ∧ ∀ (p : Nat) (content : List Node), .group p content ∈ Node.preorderOf nodes →
        ((∀ inner ∈ Node.preorderOf content, ¬ inner.Absent r ctx) →
          (Node.group p content).eval r ctx
            = .literal (String.join (content.map fun node => (node.eval r ctx).text)))
        ∧ ∀ inner ∈ Node.preorderOf content, inner.Absent r ctx →
          ((Node.group p content).eval r ctx).text = ""
          ∧ ∀ (q : Nat) (outer : List Node), .group q outer ∈ Node.preorderOf nodes →
            .group p content ∈ Node.preorderOf outer →
              ((Node.group q outer).eval r ctx).text = "" := by
  have hcontent : ∀ (p : Nat) (content : List Node), .group p content ∈ Node.preorderOf nodes →
      ∀ node ∈ Node.preorderOf content, node.isEager r := by
    intro p content hgroup node hnode
    exact heager node (Node.mem_preorderOf_trans hgroup (List.mem_cons_of_mem _ hnode))
  refine ⟨?_, fun p content hgroup => ⟨fun hpresent => ?_, fun inner hinner habsent => ⟨?_, ?_⟩⟩⟩
  · rw [← Outcome.isPresent_iff]
    exact Node.isPresent_evalSequence_iff hbuiltins heager
  · rw [← Node.isPresent_evalSequence_iff hbuiltins (hcontent p content hgroup)] at hpresent
    rw [Node.eval_group, evalGroup_of_isPresent hpresent, Node.text_evalSequence]
  · exact Node.text_eval_group_of_absent hbuiltins (hcontent p content hgroup) hinner habsent
  · intro q outer houter hnested
    have hinside : inner ∈ Node.preorderOf outer :=
      Node.mem_preorderOf_trans hnested (List.mem_cons_of_mem _ hinner)
    exact Node.text_eval_group_of_absent hbuiltins (hcontent q outer houter) hinside habsent

/-- A field without values hides the groups around it, and a group that looks a field up in a call
is shown. -/
theorem groups_shown_iff_nested :
    let hidden : List Node := [.field 1 "a", .group 4 [.field 5 "b"]]
    let shown : List Node :=
      [.literal 11 "-", .call 12 "upper" [[.call 19 "meta" [[.literal 25 "c"]]]]]
    let nodes : List Node := [.group 0 hidden, .group 10 shown]
    let record : Record := fun name =>
      if name = "a" then .single "x" else if name = "c" then .multi ["y", "z"] else .missing
    let ctx : Context := ⟨record, .empty, {}⟩
    (∀ node ∈ Node.preorderOf nodes, node.isEager .standard)
      ∧ (Node.field 5 "b").Absent .standard ctx
      ∧ ((Node.group 4 [.field 5 "b"]).eval .standard ctx).text = ""
      ∧ ((Node.group 0 hidden).eval .standard ctx).text = ""
      ∧ (Node.group 10 shown).eval .standard ctx = .literal "-Y, Z"
      ∧ (Node.evalSequence .standard ctx nodes).isEmpty = true := by
  intro hidden shown nodes record ctx
  obtain ⟨heager, heagerShown, hflags, htext, hempty⟩ :
      (∀ node ∈ Node.preorderOf nodes, node.isEager .standard)
        ∧ (∀ node ∈ Node.preorderOf shown, node.isEager .standard)
        ∧ (Node.evalSequence .standard ctx shown).isPresent
        ∧ String.join (shown.map fun node => (node.eval .standard ctx).text) = "-Y, Z"
        ∧ (Node.evalSequence .standard ctx nodes).isEmpty = true := by decide +kernel
  have habsent : (Node.field 5 "b").Absent .standard ctx := .emptyField rfl
  have hpresent : ∀ inner ∈ Node.preorderOf shown, ¬ inner.Absent .standard ctx :=
    (Node.isPresent_evalSequence_iff Registry.onlyBuiltins_standard heagerShown).1 hflags
  obtain ⟨-, hgroups⟩ := groups_shown_iff Registry.onlyBuiltins_standard heager ctx
  have hinner := (hgroups 4 [.field 5 "b"] (.tail _ (.tail _ (.head _)))).2 _ (.head _) habsent
  have houter := hinner.2 0 hidden (.head _) (.tail _ (.head _))
  have hshown := (hgroups 10 shown (.tail _ (.tail _ (.tail _ (.tail _ (.head _)))))).1 hpresent
  rw [htext] at hshown
  exact ⟨heager, habsent, hinner.1, houter, hshown, hempty⟩

end TitleScript
