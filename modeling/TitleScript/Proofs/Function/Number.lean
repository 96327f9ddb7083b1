import TitleScript.Proofs.Function
import TitleScript.Proofs.Text.Padded

/-!
# Numbers that functions yield

A function yields a number in decimal, and another function reads it again when the call is one of
its arguments. So a call can stand for the number it computes as long as that number can be read,
and of the numbers of 64 bits all but the least can. Sums, differences and products stop at both
ends of the range, and so they can be the least number, which is then read as the next one. Nothing
else on the way to a number can be: what is read from a text is not, and a quotient or a remainder
is no further from zero than the number it is taken of.

Zeros before a number do not change what is read, so numbers of one width can be compared as texts
and still be used as numbers.

## Main definitions

* `Builtin.operation?` — the operation that a function carries through its arguments

## Main results

* `Number.foldNumbers_induction` — what an operation keeps holds of what it makes of all arguments
* `arithmetic_read_back` — a call of arithmetic stands for the number it computes
* `padded_read_back` — a number with zeros before it keeps its value and gets its order
-/

namespace TitleScript

open Text

/-! ### Operations -/

namespace Number

variable {m n : Int}

theorem isReadable_quotient (h : IsReadable m) (n : Int) : IsReadable (quotient m n) := by
  rw [quotient]
  split
  · have hle := Int.natAbs_tdiv_le_natAbs m n
    simp only [IsReadable, greatest] at *
    omega
  · exact h

theorem isReadable_remainder (h : IsReadable m) (n : Int) : IsReadable (remainder m n) := by
  rw [remainder]
  split
  · have hle : (m.tmod n).natAbs ≤ m.natAbs := by
      rw [Int.natAbs_tmod]
      exact Nat.mod_le ..
    simp only [IsReadable, greatest] at *
    omega
  · exact h

theorem isReadable_min (hm : IsReadable m) (hn : IsReadable n) : IsReadable (min m n) :=
  ⟨Int.le_min.2 ⟨hm.1, hn.1⟩, Int.le_trans (Int.min_le_left m n) hm.2⟩

theorem isReadable_max (hm : IsReadable m) (hn : IsReadable n) : IsReadable (max m n) :=
  ⟨Int.le_trans hm.1 (Int.le_max_left m n), Int.max_le.2 ⟨hm.2, hn.2⟩⟩

/-- What holds of zero and of all arguments, and is kept by the operation, holds of what the
operation makes of the arguments. -/
theorem foldNumbers_induction {P : Int → Prop} {op : Int → Int → Int} (h0 : P 0)
    (hop : ∀ m n, P m → P n → P (op m n)) {numbers : List Int} (h : ∀ n ∈ numbers, P n) :
    P (foldNumbers op numbers) := by
  cases numbers with
  | nil => exact h0
  | cons n numbers =>
    obtain ⟨hn, hrest⟩ := List.forall_mem_cons.1 h
    exact List.foldlRecOn numbers op hn fun m hm n hmem => hop m n hm (hrest n hmem)

end Number

/-- The operation that a function carries through its arguments, for a function of arithmetic. -/
def Builtin.operation? : Builtin → Option (Int → Int → Int)
  | .add => some fun m n => saturate (m + n)
  | .sub => some fun m n => saturate (m - n)
  | .mul => some fun m n => saturate (m * n)
  | .div => some Number.quotient
  | .mod => some Number.remainder
  | .min => some Min.min
  | .max => some Max.max
  | _ => none

namespace Builtin

variable {b : Builtin} {op : Int → Int → Int} (h : b.operation? = some op)

include h

theorem run_of_operation? (ctx : Context) (args : List Outcome) :
    b.run ctx args = Number.foldArguments op args := by
  cases b with
  | add | sub | mul | div | mod | min | max =>
    cases h
    rfl
  | _ => contradiction

/-- An operation stops at the ends of the range, or leads from numbers that can be read to such
numbers. -/
theorem operation?_cases :
    b ∉ [.div, .mod, .min, .max] ∧ (∀ m n, InRange (op m n))
      ∨ ∀ m n, IsReadable m → IsReadable n → IsReadable (op m n) := by
  cases b with
  | add | sub | mul =>
    cases h
    exact .inl ⟨by decide, fun m n => inRange_saturate _⟩
  | div =>
    cases h
    exact .inr fun m n hm _ => Number.isReadable_quotient hm n
  | mod =>
    cases h
    exact .inr fun m n hm _ => Number.isReadable_remainder hm n
  | min =>
    cases h
    exact .inr fun m n => Number.isReadable_min
  | max =>
    cases h
    exact .inr fun m n => Number.isReadable_max
  | _ => contradiction

end Builtin

/-! ### Calls of arithmetic -/

/-- The numbers that arguments stand for. -/
def numbersOf (args : List Outcome) : List Int :=
  args.map fun arg => readInteger arg.text

theorem isReadable_of_mem_numbersOf {args : List Outcome} {n : Int} (h : n ∈ numbersOf args) :
    IsReadable n := by
  obtain ⟨arg, -, rfl⟩ := List.mem_map.1 h
  exact isReadable_readInteger arg.text

section Arithmetic

variable {b : Builtin} {op : Int → Int → Int} (hop : b.operation? = some op) (args : List Outcome)

include hop

theorem isReadable_or_inRange_foldNumbers :
    b ∉ [.div, .mod, .min, .max] ∧ InRange (Number.foldNumbers op (numbersOf args))
      ∨ IsReadable (Number.foldNumbers op (numbersOf args)) := by
  have hzero : IsReadable 0 := ⟨by decide, by decide⟩
  obtain ⟨hb, hstops⟩ | hkeeps := b.operation?_cases hop
  · refine .inl ⟨hb, Number.foldNumbers_induction hzero.inRange (fun m n _ _ => hstops m n) ?_⟩
    exact fun n hn => (isReadable_of_mem_numbersOf hn).inRange
  · exact .inr (Number.foldNumbers_induction hzero hkeeps fun n => isReadable_of_mem_numbersOf)

theorem inRange_foldNumbers : InRange (Number.foldNumbers op (numbersOf args)) := by
  obtain ⟨-, hrange⟩ | hreadable := isReadable_or_inRange_foldNumbers hop args
  · exact hrange
  · exact hreadable.inRange

theorem foldNumbers_ne_least (hb : b ∈ [.div, .mod, .min, .max]) :
    Number.foldNumbers op (numbersOf args) ≠ least := by
  obtain ⟨hother, -⟩ | hreadable := isReadable_or_inRange_foldNumbers hop args
  · exact absurd hb hother
  · intro h
    have hleast : ¬IsReadable least := by
      rintro ⟨hl, -⟩
      exact absurd hl (by decide)
    exact hleast (h ▸ hreadable)

/-- A call of arithmetic yields the number it computes, which is not cut. -/
theorem text_apply_of_operation? {f : Function} (hbody : f.body = .builtin b) (ctx : Context) :
    (f.apply ctx args).text = writeInteger (Number.foldNumbers op (numbersOf args)) := by
  have hlength := length_writeInteger_le (inRange_foldNumbers hop args)
  rw [f.text_apply, f.run_of_body ctx args hbody, b.run_of_operation? hop]
  refine cut_of_length_le (Nat.le_trans (Nat.mul_le_mul_left 4 hlength) ?_)
  decide

end Arithmetic

/-- **A call of arithmetic stands for the number it computes.** It yields the decimal form of a
number of 64 bits, and what is read from that is the number again, so another call computes with it
what it would compute with the number. The exception is the least number of the range, which is read
as the next one; quotients, remainders, minima and maxima are never the least number. -/
theorem arithmetic_read_back {f : Function} {b : Builtin} {op : Int → Int → Int}
    (hbody : f.body = .builtin b) (hop : b.operation? = some op) (ctx : Context)
    (args : List Outcome) :
    let computed := Number.foldNumbers op (numbersOf args)
    let result := f.apply ctx args
    least ≤ computed ∧ computed ≤ greatest
      ∧ result.text = writeInteger computed
      ∧ readInteger result.text = (if computed = least then least + 1 else computed)
      ∧ (b ∈ [.div, .mod, .min, .max] → computed ≠ least)
      ∧ (computed ≠ least → ∀ (g : Function) (c : Builtin) (outer : Int → Int → Int),
        g.body = .builtin c → c.operation? = some outer → ∀ before behind,
          (g.apply ctx (before ++ result :: behind)).text
            = writeInteger (Number.foldNumbers outer
                (numbersOf before ++ computed :: numbersOf behind))) := by
  intro computed result
  have hrange : InRange computed := inRange_foldNumbers hop args
  have htext : result.text = writeInteger computed := text_apply_of_operation? hop args hbody ctx
  have hread : readInteger result.text = if computed = least then least + 1 else computed := by
    rw [htext, readInteger_writeInteger, clamp_of_inRange hrange]
  refine ⟨hrange.1, hrange.2, htext, hread, foldNumbers_ne_least hop args, ?_⟩
  intro hne g c outer hg hc before behind
  have hnumbers : numbersOf (before ++ result :: behind)
      = numbersOf before ++ computed :: numbersOf behind := by
    rw [numbersOf, List.map_append, List.map_cons, hread, if_neg hne]
    rfl
  rw [text_apply_of_operation? hc _ hg ctx, hnumbers]

/-- A difference as an argument of a product, and one that is the least number. -/
theorem arithmetic_read_back_difference :
    let ctx : Context := ⟨fun _ => .missing, .empty, {}⟩
    let f := Function.ofBuiltin .sub
    let inner := f.apply ctx [.literal " 5", .literal "-4x"]
    let lowest := f.apply ctx [.literal "-9223372036854775807", .literal "1"]
    f.body = .builtin .sub ∧ Builtin.sub.operation? = some (fun m n => saturate (m - n))
      ∧ readInteger inner.text = 9
      ∧ ((Function.ofBuiltin .mul).apply ctx ([.literal "-2"] ++ inner :: [])).text = "-18"
      ∧ readInteger lowest.text = least + 1 := by
  intro ctx f inner lowest
  obtain ⟨-, -, -, hread, -, hnested⟩ :=
    arithmetic_read_back (f := f) (b := .sub) rfl rfl ctx [.literal " 5", .literal "-4x"]
  obtain ⟨-, -, -, hlowest, -⟩ :=
    arithmetic_read_back (f := f) (b := .sub) rfl rfl ctx
      [.literal "-9223372036854775807", .literal "1"]
  refine ⟨rfl, rfl, hread.trans (by decide +kernel), ?_, hlowest.trans (by decide +kernel)⟩
  exact (hnested (by decide +kernel) (.ofBuiltin .mul) .mul _ rfl rfl [.literal "-2"] []).trans
    (by decide +kernel)

/-- The least number is not read back: a difference that is a number of 64 bits becomes the next
number when nothing is added to it. -/
theorem least_not_read_back :
    let ctx : Context := ⟨fun _ => .missing, .empty, {}⟩
    let inner := (Function.ofBuiltin .sub).apply ctx
      [.literal "-9223372036854775807", .literal "1"]
    inner.text = "-9223372036854775808" ∧ readInteger inner.text ≠ -9223372036854775808
      ∧ ((Function.ofBuiltin .add).apply ctx [inner, .literal "0"]).text
        = "-9223372036854775807" := by
  decide +kernel

/-! ### Numbers with zeros before them -/

/-- A number with zeros before it is not cut. -/
theorem text_apply_padded {f : Function} (hbody : f.body = .builtin .padNumber) (ctx : Context)
    (args : List Outcome) :
    (f.apply ctx args).text = writePadded (argumentCount args 1) (argumentNumber args 0) := by
  have hnumber : (writeInteger (argumentNumber args 0)).length ≤ 20 :=
    length_writeInteger_le (isReadable_readInteger _).inRange
  have hwidth : argumentCount args 1 ≤ 4096 := Nat.min_le_right ..
  rw [f.text_apply, f.run_of_body ctx args hbody]
  refine cut_of_length_le ?_
  show 4 * (writePadded _ _).length ≤ 65536
  rw [length_writePadded]
  omega

/-- **A number with zeros before it keeps its value and gets its order.** Its length is the width
that was asked for, or its own length if that is greater, and the number itself is read from it. Of
two numbers that are not negative and no longer than the width, the less one is the one that comes
first as a text. -/
theorem padded_read_back {f : Function} (hbody : f.body = .builtin .padNumber) (ctx : Context) :
    let number (args : List Outcome) := readInteger (argumentText args 0)
    let width (args : List Outcome) := min (readInteger (argumentText args 1)).toNat 4096
    let natural (args : List Outcome) := (writeInteger (number args)).length
    let result (args : List Outcome) := (f.apply ctx args).text
    (∀ args, (result args).length = max (width args) (natural args)
        ∧ readInteger (result args) = number args)
      ∧ ∀ args args', width args = width args' → 0 ≤ number args → 0 ≤ number args' →
        natural args ≤ width args → natural args' ≤ width args' →
        (result args < result args' ↔ number args < number args')
          ∧ (result args = result args' ↔ number args = number args') := by
  intro number width natural result
  have hresult (args : List Outcome) : result args = writePadded (width args) (number args) :=
    text_apply_padded hbody ctx args
  have hread (args : List Outcome) : readInteger (result args) = number args := by
    obtain ⟨hl, hg⟩ := isReadable_readInteger (argumentText args 0)
    rw [hresult, readInteger_writePadded]
    exact clamp_of_le hl hg
  refine ⟨fun args => ⟨?_, hread args⟩, ?_⟩
  · rw [hresult, length_writePadded]
  · intro args args' hwidth hpos hpos' hfits hfits'
    refine ⟨?_, ?_, ?_⟩
    · rw [hresult, hresult, ← hwidth]
      exact writePadded_lt_iff hpos hpos' hfits (hwidth ▸ hfits')
    -- the number is read from the text, and the text made from the number
    · intro h
      rw [← hread args, h, hread args']
    · intro h
      rw [hresult, hresult, hwidth, h]

/-- A number with its sign, one beyond the range, and two that would change places as they are. -/
theorem padded_read_back_tracks :
    let ctx : Context := ⟨fun _ => .missing, .empty, {}⟩
    let f := Function.ofBuiltin .padNumber
    let result (n width : String) := (f.apply ctx [.literal n, .literal width]).text
    f.body = .builtin .padNumber
      ∧ (result "-5" "3").length = 3 ∧ readInteger (result "-5" "3") = -5
      ∧ (result "99999999999999999999" "0").length = 19
      ∧ result "9" "2" < result "10" "2" ∧ result "9/12" "2" = result "09" "2" := by
  intro ctx f result
  obtain ⟨hkeeps, horder⟩ := padded_read_back (f := f) rfl ctx
  have hnegative := hkeeps [.literal "-5", .literal "3"]
  have hbeyond := hkeeps [.literal "99999999999999999999", .literal "0"]
  have hless := horder [.literal "9", .literal "2"] [.literal "10", .literal "2"] rfl
    (by decide +kernel) (by decide +kernel) (by decide +kernel) (by decide +kernel)
  have hsame := horder [.literal "9/12", .literal "2"] [.literal "09", .literal "2"] rfl
    (by decide +kernel) (by decide +kernel) (by decide +kernel) (by decide +kernel)
  exact ⟨rfl, hnegative.1.trans (by decide +kernel), hnegative.2.trans (by decide +kernel),
    hbeyond.1.trans (by decide +kernel), hless.1.2 (by decide +kernel),
    hsame.2.2 (by decide +kernel)⟩

end TitleScript
