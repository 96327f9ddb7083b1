import Mathlib.Algebra.Group.Nat.Defs
import TitleScript.Proofs.Text.Integer

/-!
# Numbers of one width

With zeros before them, numbers of different lengths get one width, and then their order as texts is
their order as numbers: the first digit in which two of them differ decides, and what is behind it
is less than one unit of that digit. Without the zeros a longer number may come first.

Zeros before a number change neither its value nor its sign, and they count the sign as part of the
width.

## Main definitions

* `Text.paddedDigits` — the digits of a number with zeros before them

## Main results

* `Text.DigitsOf.lt_iff` — as many digits have the order of what they stand for
* `Text.length_writePadded` — the width of a number with zeros before it
* `Text.readInteger_writePadded` — what is read from it
* `Text.writePadded_lt_iff` — the order of numbers of one width
-/

namespace TitleScript

namespace Text

/-! ### The order of digits -/

/-- The first place decides, if what is behind it is less than one unit of it. -/
theorem mul_add_lt_mul_add_iff {unit x y u v : Nat} (hu : u < unit) (hv : v < unit) :
    unit * x + u < unit * y + v ↔ x < y ∨ x = y ∧ u < v := by
  obtain hlt | rfl | hgt := Nat.lt_trichotomy x y
  · have hstep : unit * x + unit ≤ unit * y := Nat.mul_le_mul_left unit hlt
    omega
  · omega
  · have hstep : unit * y + unit ≤ unit * x := Nat.mul_le_mul_left unit hgt
    omega

/-- Digits are in the order of their values. -/
theorem digitValue_lt_iff {c d : Char} (hc : c.isDigit) (hd : d.isDigit) :
    digitValue c < digitValue d ↔ c < d := by
  have hlt : c < d ↔ c.toNat < d.toNat := UInt32.lt_iff_toNat_lt
  rw [hlt, toNat_of_isDigit hc, toNat_of_isDigit hd, Nat.add_lt_add_iff_left]

theorem digitValue_inj {c d : Char} (hc : c.isDigit) (hd : d.isDigit) :
    digitValue c = digitValue d ↔ c = d := by
  rw [← Char.toNat_inj, toNat_of_isDigit hc, toNat_of_isDigit hd, Nat.add_left_cancel_iff]

theorem ofDigitChars_cons_zero (c : Char) (cs : List Char) :
    Nat.ofDigitChars 10 (c :: cs) 0 = 10 ^ cs.length * digitValue c + Nat.ofDigitChars 10 cs 0 := by
  rw [Nat.ofDigitChars_cons, Nat.ofDigitChars_eq_ofDigitChars_zero, Nat.mul_zero, Nat.zero_add]
  rfl

theorem ofDigitChars_lt {cs : List Char} (h : ∀ c ∈ cs, c.isDigit) :
    Nat.ofDigitChars 10 cs 0 < 10 ^ cs.length := by
  induction cs with
  | nil => exact Nat.one_pos
  | cons c cs ih =>
    obtain ⟨hc, hcs⟩ := List.forall_mem_cons.1 h
    have hdigit : digitValue c + 1 ≤ 10 := digitValue_lt hc
    calc Nat.ofDigitChars 10 (c :: cs) 0
        = 10 ^ cs.length * digitValue c + Nat.ofDigitChars 10 cs 0 := ofDigitChars_cons_zero c cs
      _ < 10 ^ cs.length * digitValue c + 10 ^ cs.length := Nat.add_lt_add_left (ih hcs) _
      _ ≤ 10 ^ cs.length * 10 := Nat.mul_le_mul_left _ hdigit

/-- **As many digits have the order of the numbers they stand for.** -/
theorem DigitsOf.lt_iff {m n : Nat} {cs ds : List Char} (hcs : DigitsOf m cs) (hds : DigitsOf n ds)
    (hlength : cs.length = ds.length) : cs < ds ↔ m < n := by
  obtain ⟨hcs, rfl⟩ := hcs
  obtain ⟨hds, rfl⟩ := hds
  induction cs generalizing ds with
  | nil =>
    obtain rfl := List.length_eq_zero_iff.1 hlength.symm
    exact iff_of_false (List.lt_irrefl []) (Nat.lt_irrefl _)
  | cons c cs ih =>
    obtain ⟨d, ds, rfl⟩ := List.exists_cons_of_length_eq_add_one hlength.symm
    have hlength : cs.length = ds.length := Nat.succ.inj hlength
    obtain ⟨hc, hcs⟩ := List.forall_mem_cons.1 hcs
    obtain ⟨hd, hds⟩ := List.forall_mem_cons.1 hds
    -- the first digits decide, and the others only where these are the same
    rw [List.cons_lt_cons_iff, ofDigitChars_cons_zero, ofDigitChars_cons_zero, hlength,
      mul_add_lt_mul_add_iff (hlength ▸ ofDigitChars_lt hcs) (ofDigitChars_lt hds),
      digitValue_lt_iff hc hd, digitValue_inj hc hd, ih hlength hcs hds]

/-! ### Zeros before a number -/

/-- The digits of a number with zeros before them, up to a number of digits. -/
def paddedDigits (width n : Nat) : List Char :=
  List.replicate (width - (decimal n).length) '0' ++ decimal n

theorem length_paddedDigits (width n : Nat) :
    (paddedDigits width n).length = max width (decimal n).length := by
  rw [paddedDigits, List.length_append, List.length_replicate]
  omega

theorem digitsOf_paddedDigits (width n : Nat) : DigitsOf n (paddedDigits width n) where
  isDigit c hc := by
    obtain hzero | hdigit := List.mem_append.1 hc
    · rw [List.eq_of_mem_replicate hzero]
      rfl
    · exact (digitsOf_decimal n).isDigit c hdigit
  value_eq := by
    rw [paddedDigits, Nat.ofDigitChars_append, Nat.ofDigitChars_replicate_zero, Nat.mul_zero]
    exact (digitsOf_decimal n).value_eq

/-- The zeros stand behind the sign, which takes its part of the width. -/
theorem writePadded_eq (width : Nat) (x : Int) :
    writePadded width x
      = String.ofList (sign x ++ paddedDigits (width - (sign x).length) x.natAbs) := by
  rw [writePadded, paddedDigits, List.length_append, Nat.sub_sub, List.append_assoc]

/-- **The width of a number with zeros before it.** -/
theorem length_writePadded (width : Nat) (x : Int) :
    (writePadded width x).length = max width (writeInteger x).length := by
  rw [writePadded_eq, writeInteger, String.length_ofList, String.length_ofList, List.length_append,
    List.length_append, length_paddedDigits]
  omega

/-- **Zeros before a number do not change what is read.** -/
theorem readInteger_writePadded (width : Nat) (x : Int) :
    readInteger (writePadded width x) = clamp x := by
  have hne : paddedDigits (width - (sign x).length) x.natAbs ≠ [] :=
    List.append_ne_nil_of_right_ne_nil _ Nat.toDigits_ne_nil
  rw [writePadded_eq]
  exact readInteger_sign_append hne (digitsOf_paddedDigits ..)

theorem sign_of_nonneg {x : Int} (h : 0 ≤ x) : sign x = [] :=
  if_neg (Int.not_lt.2 h)

theorem toList_writePadded {x : Int} (h : 0 ≤ x) (width : Nat) :
    (writePadded width x).toList = paddedDigits width x.natAbs := by
  rw [writePadded_eq, sign_of_nonneg h, String.toList_ofList]
  rfl

theorem length_writeInteger {x : Int} (h : 0 ≤ x) :
    (writeInteger x).length = (decimal x.natAbs).length := by
  rw [writeInteger, sign_of_nonneg h, String.length_ofList, List.nil_append]

/-- **Numbers of one width have the same order as texts.** -/
theorem writePadded_lt_iff {width : Nat} {x y : Int} (hx : 0 ≤ x) (hy : 0 ≤ y)
    (hxw : (writeInteger x).length ≤ width) (hyw : (writeInteger y).length ≤ width) :
    writePadded width x < writePadded width y ↔ x < y := by
  rw [length_writeInteger hx] at hxw
  rw [length_writeInteger hy] at hyw
  have hlength : (paddedDigits width x.natAbs).length = (paddedDigits width y.natAbs).length := by
    rw [length_paddedDigits, length_paddedDigits, Nat.max_eq_left hxw, Nat.max_eq_left hyw]
  rw [String.lt_iff, toList_writePadded hx, toList_writePadded hy,
    (digitsOf_paddedDigits ..).lt_iff (digitsOf_paddedDigits ..) hlength]
  omega

-- Without the zeros, the longer of two numbers comes first.
example : writePadded 1 10 < writePadded 1 9 ∧ writePadded 2 9 < writePadded 2 10 := by
  decide +kernel

end Text

end TitleScript
