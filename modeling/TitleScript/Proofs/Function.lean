import TitleScript.Function
import TitleScript.Proofs.Text.Position

/-!
# What functions yield

Three things can come out of a built-in function. One that chooses passes on one of its arguments,
or says something of its own; one that looks into the record yields the text it finds there, as a
field would; and every other one yields text of its own, whatever the flags of its arguments are.
Everything that is true of calls in general follows from this, so the functions are gone through
once, here.

A call adds two things to the outcome of its function. The flags of the arguments stick to it where
the function looks at all of them, and its text is cut, so that even a function of the host cannot
make it longer than the bound.

## Main definitions

* `Outcome.isPresent` — every name was known and every field had a value
* `Lookup.foundText?` — the text that a function on the record finds

## Main results

* `Builtin.run_of_lazy`, `Builtin.run_of_eager`, `Builtin.run_of_foundText?` — the three kinds
* `Function.apply_of_lazy`, `Function.apply_of_eager` — the outcome of a call
* `Function.utf8ByteSize_apply_le` — the bound on its text
-/

namespace TitleScript

namespace Outcome

theorem ofBool_eq (b : Bool) : ofBool b = literal (if b then "1" else "") := by
  cases b <;> rfl

/-! ### Flags -/

/-- Every name inside was known, and every field inside had a value. -/
def isPresent (o : Outcome) : Bool :=
  o.success && !o.isEmpty

@[simp] theorem isPresent_neutral : neutral.isPresent = true := rfl

@[simp] theorem isPresent_literal (text : String) : (literal text).isPresent = true := rfl

@[simp] theorem isPresent_unresolved : unresolved.isPresent = false := rfl

@[simp] theorem isPresent_ofField (value : String) :
    (ofField value).isPresent = !value.isEmpty := rfl

@[simp] theorem isPresent_truncate (o : Outcome) (room : Nat) :
    (o.truncate room).isPresent = o.isPresent := rfl

@[simp] theorem isPresent_append (o p : Outcome) :
    (o.append p).isPresent = (o.isPresent && p.isPresent) := by
  simp only [isPresent, append, Bool.not_or]
  ac_rfl

theorem isPresent_iff {o : Outcome} : o.isPresent ↔ o.success ∧ o.isEmpty = false := by
  rw [isPresent, Bool.and_eq_true, Bool.not_eq_true']

/-- The flags of outcomes stick to another one, in whatever order. -/
theorem foldl_absorb (args : List Outcome) (o : Outcome) :
    args.foldl absorb o
      = ⟨o.text, o.success && args.all (·.success), o.isEmpty || args.any (·.isEmpty)⟩ := by
  induction args generalizing o with
  | nil => rw [List.all_nil, List.any_nil, Bool.and_true, Bool.or_false, List.foldl_nil]
  | cons arg args ih =>
    rw [List.foldl_cons, ih, absorb, List.all_cons, List.any_cons, Bool.and_assoc, Bool.or_assoc]

theorem isPresent_foldl_absorb (args : List Outcome) (o : Outcome) :
    (args.foldl absorb o).isPresent = (o.isPresent && args.all isPresent) := by
  induction args generalizing o with
  | nil => rw [List.foldl_nil, List.all_nil, Bool.and_true]
  | cons arg args ih =>
    have habsorb : (o.absorb arg).isPresent = (o.isPresent && arg.isPresent) :=
      isPresent_append o arg
    rw [List.foldl_cons, ih, habsorb, List.all_cons, Bool.and_assoc]

end Outcome

theorem argument_eq (args : List Outcome) (i : Nat) :
    argument args i ∈ args ∨ argument args i = .neutral := by
  rw [argument, List.getD_eq_getElem?_getD]
  cases h : args[i]? with
  | none => exact .inr rfl
  | some o => exact .inl (List.mem_of_getElem? h)

/-! ### The kinds of functions -/

/-- What a function that chooses can yield: one of its arguments, or text of its own. -/
def Outcome.Chosen (args : List Outcome) (o : Outcome) : Prop :=
  o ∈ args ∨ ∃ text, o = .literal text

namespace Control

open Outcome (Chosen)

variable (args : List Outcome)

theorem chosen_neutral : Chosen args .neutral := .inr ⟨"", rfl⟩

theorem chosen_ofBool (b : Bool) : Chosen args (.ofBool b) := .inr ⟨_, Outcome.ofBool_eq b⟩

theorem chosen_argument (i : Nat) : Chosen args (argument args i) := by
  obtain h | h := argument_eq args i
  · exact .inl h
  · rw [h]
    exact chosen_neutral args

theorem chosen_choose : Chosen args (choose args) := by
  rw [choose]
  split <;> exact chosen_argument args _

theorem chosen_orElse : Chosen args (orElse args) := by
  rw [orElse]
  split <;> exact chosen_argument args _

theorem chosen_chooseBy (test : List Outcome → Bool) : Chosen args (chooseBy test args) := by
  rw [chooseBy]
  split <;> exact chosen_argument args _

theorem chosen_select : Chosen args (select args) := by
  rw [select]
  split
  · exact chosen_argument args _
  · exact chosen_neutral args

theorem chosen_firstOf : Chosen args (firstOf args) := by
  rw [firstOf]
  cases hfound : args.dropLast.find? Outcome.truthy with
  | some o => exact .inl (List.dropLast_subset args (List.mem_of_find?_eq_some hfound))
  | none =>
    -- no argument before the last one is true
    rw [Option.getD_none, List.getLastD_eq_getLast?]
    cases hlast : args.getLast? with
    | none => exact chosen_neutral args
    | some o => exact .inl (List.mem_of_getLast? hlast)

end Control

namespace Lookup

/-- The text that a function on the record finds: the values of a field joined, or one of them, and
the empty text if there is none. Other functions find nothing. -/
def foundText? (ctx : Context) (args : List Outcome) : Builtin → Option String
  | .fieldText => some <|
    if args.length ≤ 1 then ctx.settings.valueSeparator.intercalate (values ctx args)
    else (valueAt? (values ctx args) (argumentNumber args 1)).getD ""
  | .fieldJoin => some ((argumentText args 1).intercalate (values ctx args))
  | _ => none

variable {ctx : Context} {args : List Outcome} {text : String}

theorem valueAt?_nil (i : Int) : valueAt? [] i = none := by
  rw [valueAt?]
  split <;> rfl

theorem text_of_foundText? (h : foundText? ctx args .fieldText = some text) :
    Lookup.text ctx args = .ofField text := by
  obtain rfl := Option.some_inj.1 h
  rw [Lookup.text]
  by_cases hone : args.length ≤ 1
  · rw [if_pos hone]
    cases values ctx args with
    | nil => rfl
    | cons v vs => simp only [if_pos hone]
  · rw [if_neg hone]
    cases values ctx args with
    | nil =>
      rw [valueAt?_nil]
      rfl
    | cons v vs =>
      simp only [if_neg hone]
      cases valueAt? (v :: vs) (argumentNumber args 1) <;> rfl

theorem joined_of_foundText? (h : foundText? ctx args .fieldJoin = some text) :
    joined ctx args = .ofField text := by
  obtain rfl := Option.some_inj.1 h
  rw [joined]
  cases values ctx args <;> rfl

end Lookup

theorem Textual.exists_middle (args : List Outcome) : ∃ text, middle args = .literal text := by
  rw [middle]
  split
  · exact ⟨"", rfl⟩
  · exact ⟨_, rfl⟩

theorem Textual.exists_char (args : List Outcome) : ∃ text, char args = .literal text := by
  rw [char]
  split
  · exact ⟨_, rfl⟩
  · exact ⟨"", rfl⟩

namespace Builtin

variable {b : Builtin} (ctx : Context) (args : List Outcome)

/-- A function that does not look at all of its arguments passes on one of them, or says something
of its own. -/
theorem run_of_lazy (h : b.strategy = .lazy) : (b.run ctx args).Chosen args := by
  cases b with
  | choose => exact Control.chosen_choose args
  | orElse => exact Control.chosen_orElse args
  | firstOf => exact Control.chosen_firstOf args
  | ifEqual | ifGreater | ifLonger => exact Control.chosen_chooseBy args _
  | select => exact Control.chosen_select args
  | and | or | not => exact Control.chosen_ofBool args _
  | _ => contradiction

/-- A function on the record yields the text it finds, as a field would. -/
theorem run_of_foundText? {text : String} (h : Lookup.foundText? ctx args b = some text) :
    b.run ctx args = .ofField text := by
  cases b with
  | fieldText => exact Lookup.text_of_foundText? h
  | fieldJoin => exact Lookup.joined_of_foundText? h
  | _ => contradiction

/-- Every other function yields text of its own. -/
theorem run_of_eager (h : b.strategy = .eager) (hfound : Lookup.foundText? ctx args b = none) :
    ∃ text, b.run ctx args = .literal text := by
  cases b with
  | choose | orElse | firstOf | ifEqual | ifGreater | ifLonger | select | and | or | not =>
    contradiction
  | fieldText | fieldJoin => contradiction
  | equal | equalFolded | greater | longer => exact ⟨_, Outcome.ofBool_eq _⟩
  | middle => exact Textual.exists_middle args
  | char => exact Textual.exists_char args
  | _ => exact ⟨_, rfl⟩

/-- A function that looks at all of its arguments yields something unless it is one on the record
that finds nothing. -/
theorem isPresent_run_of_eager (h : b.strategy = .eager) :
    (b.run ctx args).isPresent ↔ Lookup.foundText? ctx args b ≠ some "" := by
  cases hfound : Lookup.foundText? ctx args b with
  | some text =>
    rw [run_of_foundText? ctx args hfound]
    simp
  | none =>
    obtain ⟨text, hown⟩ := run_of_eager ctx args h hfound
    rw [hown]
    simp

/-- Built-in functions do not fail by themselves. -/
theorem success_run (b : Builtin) (hargs : ∀ arg ∈ args, arg.success) :
    (b.run ctx args).success := by
  cases hstrategy : b.strategy with
  | lazy =>
    obtain hmem | ⟨text, hown⟩ := run_of_lazy ctx args hstrategy
    · exact hargs _ hmem
    · rw [hown]
      rfl
  | eager =>
    cases hfound : Lookup.foundText? ctx args b with
    | some text =>
      rw [run_of_foundText? ctx args hfound]
      rfl
    | none =>
      obtain ⟨text, hown⟩ := run_of_eager ctx args hstrategy hfound
      rw [hown]
      rfl

end Builtin

/-! ### Calls -/

namespace Function

variable {f : Function} {b : Builtin} (ctx : Context) (args : List Outcome)

theorem run_of_body (h : f.body = .builtin b) : f.run ctx args = b.run ctx args := by
  rw [run, h]

theorem strategy_of_body (h : f.body = .builtin b) : f.strategy = b.strategy := by
  rw [strategy, h]

theorem apply_of_lazy (h : f.strategy = .lazy) :
    f.apply ctx args = (f.run ctx args).truncate maxResultBytes := by
  rw [apply, h]

theorem apply_of_eager (h : f.strategy = .eager) :
    f.apply ctx args = (args.foldl Outcome.absorb (f.run ctx args)).truncate maxResultBytes := by
  rw [apply, h]

/-- A call fails if one of its arguments does, where the function looks at all of them. -/
theorem success_apply_of_eager (h : f.strategy = .eager) :
    (f.apply ctx args).success ↔ (f.run ctx args).success ∧ ∀ arg ∈ args, arg.success := by
  rw [apply_of_eager ctx args h, Outcome.foldl_absorb, Outcome.truncate, Bool.and_eq_true,
    List.all_eq_true]

theorem isPresent_apply_of_eager (h : f.strategy = .eager) :
    (f.apply ctx args).isPresent
      ↔ (f.run ctx args).isPresent ∧ ∀ arg ∈ args, arg.isPresent := by
  rw [apply_of_eager ctx args h, Outcome.isPresent_truncate, Outcome.isPresent_foldl_absorb,
    Bool.and_eq_true, List.all_eq_true]

/-- A call does not fail unless its function or one of its arguments does. -/
theorem success_apply (hrun : (f.run ctx args).success) (hargs : ∀ arg ∈ args, arg.success) :
    (f.apply ctx args).success := by
  cases h : f.strategy with
  | lazy =>
    rw [apply_of_lazy ctx args h]
    exact hrun
  | eager => exact (success_apply_of_eager ctx args h).2 ⟨hrun, hargs⟩

/-- The flags that stick to a call do not touch its text. -/
theorem text_apply (f : Function) :
    (f.apply ctx args).text = Text.cut maxResultBytes (f.run ctx args).text := by
  cases h : f.strategy with
  | lazy =>
    rw [apply_of_lazy ctx args h]
    rfl
  | eager =>
    rw [apply_of_eager ctx args h, Outcome.foldl_absorb]
    rfl

/-- The text of a call is bounded, whatever its function computes. -/
theorem utf8ByteSize_apply_le (f : Function) :
    (f.apply ctx args).text.utf8ByteSize ≤ maxResultBytes :=
  Text.utf8ByteSize_cut_le maxResultBytes _

end Function

end TitleScript
