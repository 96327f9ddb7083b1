import TitleScript.Proofs.Evaluation.Control
import TitleScript.Proofs.Evaluation.StaticGroup
import TitleScript.Proofs.Text.Integer

/-!
# Ways to read a field

A script can use a field for itself, or give its name to a function that joins its values, with the
separator of the settings or with one of its own, counts them, or picks one. All of these look at
the same list of values, whatever form the record gives it, and differ in what they make of it.

What a field yields for itself is not cut, and what a call yields is. A cut leaves something of
every text that is not empty, so it does not change what is told about a value. Of values that are
joined, each fits if all of them do.

A position is written in decimal and read again, and one that is out of the range for numbers is
then another one. But it leads to no value either way.

## Main definitions

* `Node.Says` — a sequence of nodes is a text
* `FieldReadings` — what the ways to read a field have to do with each other

## Main results

* `eval_of_texts` — a call with texts as arguments
* `eval_meta`, `eval_meta_at`, `eval_meta_sep`, `eval_meta_num` — the calls, by the list of values
* `field_readings` — the ways to read a field agree
-/

namespace TitleScript

open Node (evalSequence)
open Text

/-! ### Outcomes that are cut -/

/-- What is left of a value is empty only if the value is. -/
theorem Outcome.truncate_ofField {room : Nat} (hroom : 4 ≤ room) (value : String) :
    (ofField value).truncate room = ofField (cut room value) := by
  have hempty : (cut room value).isEmpty = value.isEmpty := by
    rw [Bool.eq_iff_iff, String.isEmpty_iff, String.isEmpty_iff, cut_eq_empty_iff hroom]
  rw [ofField, ofField, hempty]
  rfl

/-- Texts have no flags to pass on. -/
theorem Outcome.foldl_absorb_literal (o : Outcome) (texts : List String) :
    (texts.map literal).foldl absorb o = o := by
  induction texts with
  | nil => rfl
  | cons text texts ih =>
    rw [List.map_cons, List.foldl_cons, absorb_of_isPresent (isPresent_literal text), ih]

/-! ### Values of a list -/

namespace Lookup

variable {values : List String}

@[simp] theorem valueAt?_natCast (i : Nat) : valueAt? values i = values[i]? :=
  if_neg (Int.not_lt.2 (Int.natCast_nonneg i))

/-- There is no value where no position of the list is. -/
theorem valueAt?_eq_none {i : Int} (h : i < 0 ∨ values.length ≤ i) : valueAt? values i = none := by
  obtain hneg | hlength := h
  · exact if_pos hneg
  · obtain ⟨k, rfl⟩ := Int.eq_ofNat_of_zero_le (Int.le_trans (Int.natCast_nonneg _) hlength)
    rw [valueAt?_natCast, List.getElem?_eq_none (Int.ofNat_le.1 hlength)]

/-- In a list whose length is within the range, the nearest position within the range leads to the
same value. -/
theorem valueAt?_clamp (h : (values.length : Int) ≤ greatest) (i : Int) :
    valueAt? values (clamp i) = valueAt? values i := by
  have hpos : 0 ≤ greatest := by decide
  by_cases hin : 0 ≤ i ∧ i < values.length
  · rw [clamp_of_le (by omega) (by omega)]
  · have hout : clamp i < 0 ∨ values.length ≤ clamp i := by
      rw [clamp]
      omega
    rw [valueAt?_eq_none hout, valueAt?_eq_none (by omega)]

end Lookup

/-- Values that are joined are no longer than all of them together. -/
theorem Text.utf8ByteSize_le_intercalate {value : String} {values : List String}
    (h : value ∈ values) (s : String) :
    value.utf8ByteSize ≤ (s.intercalate values).utf8ByteSize := by
  induction values with
  | nil => cases h
  | cons first values ih =>
    obtain rfl | hne := eq_or_ne values []
    · rw [List.mem_singleton.1 h, String.intercalate_singleton]
    · rw [String.intercalate_cons_of_ne_nil hne, String.utf8ByteSize_append,
        String.utf8ByteSize_append]
      obtain rfl | hrest := List.mem_cons.1 h
      · omega
      · have := ih hrest
        omega

/-- A number within the range is not long. -/
theorem Text.utf8ByteSize_writeNat_le {n : Nat} (h : (n : Int) ≤ greatest) :
    (writeNat n).utf8ByteSize ≤ maxResultBytes := by
  have hdigits : (decimal n).length ≤ 19 := length_decimal_le (Int.le_add_one h)
  have hbytes := byteLength_le (decimal n)
  rw [writeNat, utf8ByteSize_ofList, maxResultBytes]
  omega

/-! ### Calls with texts -/

/-- The nodes are text in every context, and together they are this text. -/
structure Node.Says (nodes : List Node) (text : String) : Prop where
  static : anyDynamic nodes = false
  text_eq : staticTextOf nodes = text

theorem Node.says_literal (p : Nat) (text : String) : Says [.literal p text] text :=
  ⟨rfl, String.empty_append⟩

theorem Node.Says.evalSequence_eq {nodes : List Node} {text : String} (h : Says nodes text)
    (r : Registry) (ctx : Context) : evalSequence r ctx nodes = .literal text := by
  rw [evalSequence_of_anyDynamic_eq_false h.static, h.text_eq]

section Calls

variable {r : Registry} (hr : r.functions = Registry.builtins) (ctx : Context) (p : Nat)

include hr

/-- A call of a function that looks at all of its arguments, with a text for each. -/
theorem eval_of_texts {b : Builtin} (heager : b.strategy = .eager) {args : List (List Node)}
    {texts : List String} (hargs : b.arity.accepts args.length)
    (htexts : List.Forall₂ Node.Says args texts) :
    (Node.call p b.name args).eval r ctx
      = (b.run ctx (texts.map .literal)).truncate maxResultBytes := by
  have hvalues : args.map (evalSequence r ctx) = texts.map .literal := by
    clear hargs
    induction htexts with
    | nil => rfl
    | cons hsay _ ih => rw [List.map_cons, List.map_cons, hsay.evalSequence_eq, ih]
  have hstrategy : (Function.ofBuiltin b).strategy = .eager := heager
  rw [eval_builtin hr b hargs, hvalues, Function.apply_of_eager ctx _ hstrategy,
    Outcome.foldl_absorb_literal]
  rfl

/-- A call of a function that finds a text in the record. -/
theorem eval_of_foundText? {b : Builtin} (heager : b.strategy = .eager) {args : List (List Node)}
    {texts : List String} (hargs : b.arity.accepts args.length)
    (htexts : List.Forall₂ Node.Says args texts) {text : String}
    (hfound : Lookup.foundText? ctx (texts.map .literal) b = some text) :
    (Node.call p b.name args).eval r ctx = (Outcome.ofField text).truncate maxResultBytes := by
  rw [eval_of_texts hr ctx p heager hargs htexts, Builtin.run_of_foundText? ctx _ hfound]

variable {name : List Node} {f : String} (hname : Node.Says name f)

include hname

theorem eval_meta :
    (Node.call p "meta" [name]).eval r ctx
      = (Outcome.ofField (ctx.fieldText f)).truncate maxResultBytes :=
  eval_of_foundText? hr ctx p (b := .fieldText) rfl rfl (.cons hname .nil) rfl

theorem eval_meta_at {index : List Node} {i : Int}
    (hlength : ((ctx.record f).toList.length : Int) ≤ greatest)
    (hindex : Node.Says index (writeInteger i)) :
    (Node.call p "meta" [name, index]).eval r ctx
      = (Outcome.ofField ((Lookup.valueAt? (ctx.record f).toList i).getD "")).truncate
          maxResultBytes := by
  rw [← Lookup.valueAt?_clamp hlength, ← readInteger_writeInteger]
  exact eval_of_foundText? hr ctx p (b := .fieldText) rfl rfl (.cons hname (.cons hindex .nil)) rfl

theorem eval_meta_sep {sep : List Node} {s : String} (hsep : Node.Says sep s) :
    (Node.call p "meta_sep" [name, sep]).eval r ctx
      = (Outcome.ofField (s.intercalate (ctx.record f).toList)).truncate maxResultBytes :=
  eval_of_foundText? hr ctx p (b := .fieldJoin) rfl rfl (.cons hname (.cons hsep .nil)) rfl

theorem eval_meta_num :
    (Node.call p "meta_num" [name]).eval r ctx
      = (Outcome.literal (writeNat (ctx.record f).toList.length)).truncate maxResultBytes := by
  have hcall : (Node.call p "meta_num" [name]).eval r ctx
      = (Builtin.fieldCount.run ctx ([f].map .literal)).truncate maxResultBytes :=
    eval_of_texts hr ctx p (b := .fieldCount) rfl rfl (.cons hname .nil)
  rw [hcall, Builtin.run, Lookup.count]
  rfl

/-- A position of the list leads to its value, of which a cut leaves something. -/
theorem eval_meta_of_getElem? {index : List Node} {i : Nat} {value : String}
    (hlength : ((ctx.record f).toList.length : Int) ≤ greatest)
    (hindex : Node.Says index (writeInteger i)) (hvalue : (ctx.record f).toList[i]? = some value) :
    (Node.call p "meta" [name, index]).eval r ctx = .ofField (cut maxResultBytes value) := by
  rw [eval_meta_at hr ctx p hname hlength hindex, Lookup.valueAt?_natCast, hvalue,
    Option.getD_some, Outcome.truncate_ofField (by decide)]

/-- Values that all fit are found one by one, as they are. -/
theorem map_text_eval_meta {index : Nat → List Node}
    (hlength : ((ctx.record f).toList.length : Int) ≤ greatest)
    (hindex : ∀ i : Nat, Node.Says (index i) (writeInteger i))
    (hfits : ∀ value ∈ (ctx.record f).toList, value.utf8ByteSize ≤ maxResultBytes) :
    ((List.range (ctx.record f).toList.length).map fun i =>
        ((Node.call p "meta" [name, index i]).eval r ctx).text)
      = (ctx.record f).toList := by
  refine List.ext_getElem (by simp) ?_
  intro i hi hi'
  have hvalue := List.getElem?_eq_getElem hi'
  rw [List.getElem_map, List.getElem_range,
    eval_meta_of_getElem? hr ctx p hname hlength (hindex i) hvalue, Outcome.ofField,
    cut_of_le (hfits _ (List.getElem_mem hi'))]

end Calls

/-! ### All ways together -/

/-- What the ways to read a field have to do with each other, in a context and with a sequence of
nodes for its name. -/
structure FieldReadings (r : Registry) (ctx : Context) (name : List Node) (f : String) : Prop where
  /-- `$meta(f)` is `%f%`, but cut. -/
  joined (p q : Nat) : (Node.call p "meta" [name]).eval r ctx
    = ((Node.field q f).eval r ctx).truncate maxResultBytes
  /-- `$meta_sep(f,s)` is `$meta(f)` if `s` is the separator of the settings. -/
  separated (p q : Nat) {sep : List Node} : Node.Says sep ctx.settings.valueSeparator →
    (Node.call p "meta_sep" [name, sep]).eval r ctx = (Node.call q "meta" [name]).eval r ctx
  /-- `$meta_num(f)` is the number of values. -/
  counted (p : Nat) : (Node.call p "meta_num" [name]).eval r ctx
    = .literal (writeNat (ctx.record f).toList.length)
  /-- `$meta(f,i)` is the value at the position `i`, but cut. -/
  picked (p : Nat) {index : List Node} {i : Nat} {value : String} :
    Node.Says index (writeInteger i) → (ctx.record f).toList[i]? = some value →
      (Node.call p "meta" [name, index]).eval r ctx = .ofField (cut maxResultBytes value)
  /-- `$meta(f,i)` is missing if no value is at the position. -/
  outside (p : Nat) {index : List Node} {i : Int} :
    Node.Says index (writeInteger i) → i < 0 ∨ (ctx.record f).toList.length ≤ i →
      (Node.call p "meta" [name, index]).eval r ctx = .missing
  /-- If nothing is cut, `$meta_sep(f,s)` is all `$meta(f,i)` with `s` between them. -/
  reassembled (p q : Nat) {sep : List Node} {s : String} {index : Nat → List Node} :
    Node.Says sep s → (∀ i : Nat, Node.Says (index i) (writeInteger i)) →
      (s.intercalate (ctx.record f).toList).utf8ByteSize ≤ maxResultBytes →
      ((Node.call p "meta_sep" [name, sep]).eval r ctx).text
        = s.intercalate ((List.range (ctx.record f).toList.length).map fun i =>
            ((Node.call q "meta" [name, index i]).eval r ctx).text)

/-- **All ways to read a field agree.** A field name that is written as text, in a script that may
use every field, is read from the same list of values by all of them. That the length of the list
is a number of 64 bits is true of every list in memory. -/
theorem field_readings (ctx : Context) {name : List Node} {f : String} (hname : Node.Says name f)
    (hlength : ((ctx.record f).toList.length : Int) ≤ greatest) :
    FieldReadings .standard ctx name f := by
  have hr : Registry.standard.functions = Registry.builtins := rfl
  constructor
  case joined =>
    intro p q
    rw [eval_meta hr ctx p hname, Node.eval, evalField_eq]
    rfl
  case separated =>
    intro p q sep hsep
    rw [eval_meta_sep hr ctx p hname hsep, eval_meta hr ctx q hname]
    rfl
  case counted =>
    intro p
    have hfits := utf8ByteSize_writeNat_le hlength
    rw [eval_meta_num hr ctx p hname, Outcome.truncate]
    exact congrArg Outcome.literal (cut_of_le hfits)
  case picked =>
    intro p index i value hindex hvalue
    exact eval_meta_of_getElem? hr ctx p hname hlength hindex hvalue
  case outside =>
    intro p index i hindex hout
    rw [eval_meta_at hr ctx p hname hlength hindex, Lookup.valueAt?_eq_none hout, Option.getD_none,
      Outcome.truncate_ofField (by decide)]
    rfl
  case reassembled =>
    intro p q sep s index hsep hindex hfits
    -- each value fits, since all of them together do
    have heach : ∀ value ∈ (ctx.record f).toList, value.utf8ByteSize ≤ maxResultBytes :=
      fun value hvalue => Nat.le_trans (utf8ByteSize_le_intercalate hvalue s) hfits
    rw [map_text_eval_meta hr ctx q hname hlength hindex heach, eval_meta_sep hr ctx p hname hsep]
    exact cut_of_le hfits

/-- A field with two values, one of them empty, whose name is written in two parts. -/
theorem field_readings_of_two :
    let ctx : Context := ⟨fun f => if f = "ab" then .multi ["é", ""] else .missing, ⟨[]⟩, {}⟩
    let name : List Node := [.literal 6 "a", .quoted 7 "b"]
    Node.Says name "ab" ∧ ((ctx.record "ab").toList.length : Int) ≤ greatest
      ∧ FieldReadings .standard ctx name "ab"
      ∧ (Node.call 0 "meta" [name, [.literal 9 (writeInteger 0)]]).eval .standard ctx
        = .ofField (cut maxResultBytes "é") := by
  intro ctx name
  have hname : Node.Says name "ab" := ⟨rfl, by decide⟩
  have hlength : ((ctx.record "ab").toList.length : Int) ≤ greatest := by decide
  have hreadings := field_readings ctx hname hlength
  exact ⟨hname, hlength, hreadings, hreadings.picked 0 (Node.says_literal 9 _) rfl⟩

end TitleScript
