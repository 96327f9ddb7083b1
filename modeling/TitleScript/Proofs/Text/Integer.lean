import Mathlib.Data.List.TakeWhile
import TitleScript.Text.Integer

/-!
# Reading what is written

A number is read digit by digit and stays within the range after each of them. Once the range is
left, no further digit leads back into it, so this is the same as reading all digits exactly and
going back into the range once.

What is written in decimal, with or without zeros before it, is therefore read back as the number
itself, and a number out of the range as the end of the range. Since the sign is applied last, both
ends are the same but for the sign.

## Main definitions

* `Text.clamp` — the number that the decimal form of a number stands for
* `Text.DigitsOf` — the digits of a number, perhaps with zeros before them
* `Text.InRange`, `Text.IsReadable` — the numbers of 64 bits, and those that can be read

## Main results

* `Text.readMagnitude_eq` — the digits of a text are read exactly, and then clamped
* `Text.readInteger_sign_append` — what is read from a sign with digits behind it
* `Text.readInteger_writeInteger` — what is read from a number in decimal
* `Text.clamp_of_inRange` — which number of 64 bits is not read as itself
-/

namespace TitleScript

namespace Text

/-- The nearest number whose magnitude is within the range. -/
def clamp (x : Int) : Int :=
  max (-greatest) (min greatest x)

theorem clamp_of_le {x : Int} (hl : -greatest ≤ x) (hg : x ≤ greatest) : clamp x = x := by
  rw [clamp, Int.min_eq_right hg, Int.max_eq_right hl]

theorem clamp_neg (x : Int) : clamp (-x) = -clamp x := by
  simp only [clamp, greatest]
  omega

/-! ### Digits -/

theorem digitValue_lt {c : Char} (h : c.isDigit) : digitValue c < 10 := by
  rw [Char.isDigit, Bool.and_eq_true, decide_eq_true_iff, decide_eq_true_iff] at h
  have hle : c.toNat ≤ 57 := h.2
  exact Nat.sub_lt_left_of_lt_add h.1 (Nat.lt_succ_of_le hle)

theorem toNat_of_isDigit {c : Char} (h : c.isDigit) : c.toNat = 48 + digitValue c := by
  rw [Char.isDigit, Bool.and_eq_true, decide_eq_true_iff, decide_eq_true_iff] at h
  exact (Nat.add_sub_cancel' h.1).symm

/-- One more digit, behind a number that has been clamped or not. -/
theorem appendDigit_clamp (n : Nat) (c : Char) :
    appendDigit (clamp n) c = clamp (10 * n + digitValue c : Nat) := by
  simp only [appendDigit, clamp, saturate, greatest, least]
  omega

/-- Clamping after every digit is clamping once. -/
theorem foldl_appendDigit (digits : List Char) (n : Nat) :
    digits.foldl appendDigit (clamp n) = clamp (Nat.ofDigitChars 10 digits n) := by
  induction digits generalizing n with
  | nil => rfl
  | cons c digits ih =>
    rw [List.foldl_cons, appendDigit_clamp, ih, Nat.ofDigitChars_cons]
    rfl

/-- **The digits at the beginning of a text are read exactly**, however many there are, and then
clamped. -/
theorem readMagnitude_eq (cs : List Char) :
    readMagnitude cs = clamp (Nat.ofDigitChars 10 (cs.takeWhile Char.isDigit) 0) :=
  foldl_appendDigit (cs.takeWhile Char.isDigit) 0

/-- The characters are digits and stand for a number, perhaps with zeros before it. -/
structure DigitsOf (n : Nat) (digits : List Char) : Prop where
  isDigit : ∀ c ∈ digits, c.isDigit
  value_eq : Nat.ofDigitChars 10 digits 0 = n

theorem digitsOf_decimal (n : Nat) : DigitsOf n (decimal n) where
  isDigit _ hc := Nat.isDigit_of_mem_toDigits (by decide) (by decide) hc
  value_eq := Nat.ofDigitChars_ten_toDigits

/-! ### Signs and blanks -/

theorem isBlank_of_isDigit {c : Char} (h : c.isDigit) : isBlank c = false := by
  have hdigits : ∀ n ∈ List.range' 48 10, isBlank (Char.ofNat n) = false := by decide +kernel
  have hcode : c.toNat ∈ List.range' 48 10 := by
    rw [List.mem_range'_1, toNat_of_isDigit h]
    exact ⟨Nat.le_add_right 48 _, Nat.add_lt_add_left (digitValue_lt h) 48⟩
  rw [← Char.ofNat_toNat c]
  exact hdigits c.toNat hcode

/-- A text that begins with a digit has no blanks and no sign to skip. -/
theorem readInteger_of_isDigit {c : Char} {cs : List Char} (h : c.isDigit) :
    readInteger (String.ofList (c :: cs)) = readMagnitude (c :: cs) := by
  have hskip : (c :: cs).dropWhile isBlank = c :: cs :=
    List.dropWhile_cons_of_neg (Bool.not_eq_true _ ▸ isBlank_of_isDigit h)
  rw [readInteger, String.toList_ofList, hskip]
  -- neither sign is a digit
  have hminus : c ≠ '-' := by
    rintro rfl
    contradiction
  have hplus : c ≠ '+' := by
    rintro rfl
    contradiction
  simp [readSigned, hminus, hplus]

theorem readInteger_minus (cs : List Char) :
    readInteger (String.ofList ('-' :: cs)) = -readMagnitude cs := by
  have hskip : ('-' :: cs).dropWhile isBlank = '-' :: cs :=
    List.dropWhile_cons_of_neg (by decide +kernel)
  rw [readInteger, String.toList_ofList, hskip, readSigned]

/-- Digits behind the sign of a number are read as the number whose magnitude they stand for. -/
theorem readInteger_sign_append {x : Int} {digits : List Char} (hne : digits ≠ [])
    (h : DigitsOf x.natAbs digits) :
    readInteger (String.ofList (sign x ++ digits)) = clamp x := by
  have hmagnitude : readMagnitude digits = clamp x.natAbs := by
    rw [readMagnitude_eq, List.takeWhile_eq_self_iff.2 h.isDigit, h.value_eq]
  obtain hneg | hpos := Int.lt_or_le x 0
  · have hx : -(x.natAbs : Int) = x := by omega
    rw [sign, if_pos hneg, List.singleton_append, readInteger_minus, hmagnitude, ← clamp_neg, hx]
  · have hx : (x.natAbs : Int) = x := by omega
    obtain ⟨c, cs, rfl⟩ := List.exists_cons_of_ne_nil hne
    rw [sign, if_neg (Int.not_lt.2 hpos), List.nil_append,
      readInteger_of_isDigit (h.isDigit c List.mem_cons_self), hmagnitude, hx]

/-- **What is read from a number in decimal**: the number itself if its magnitude is within the
range, and otherwise the nearest end of the range. -/
theorem readInteger_writeInteger (x : Int) : readInteger (writeInteger x) = clamp x :=
  readInteger_sign_append Nat.toDigits_ne_nil (digitsOf_decimal x.natAbs)

/-! ### The range -/

/-- The numbers of 64 bits. -/
def InRange (x : Int) : Prop :=
  least ≤ x ∧ x ≤ greatest

/-- The numbers that a text can stand for. -/
def IsReadable (x : Int) : Prop :=
  -greatest ≤ x ∧ x ≤ greatest

theorem IsReadable.inRange {x : Int} (h : IsReadable x) : InRange x :=
  ⟨Int.le_trans (by decide) h.1, h.2⟩

theorem inRange_saturate (x : Int) : InRange (saturate x) :=
  ⟨least_le_saturate x, saturate_le_greatest x⟩

/-- Of the numbers of 64 bits, only the least cannot be read. The next one is read for it. -/
theorem clamp_of_inRange {x : Int} (h : InRange x) :
    clamp x = if x = least then least + 1 else x := by
  obtain ⟨hl, hg⟩ := h
  split
  · next heq =>
    rw [heq]
    rfl
  · refine clamp_of_le ?_ hg
    rw [least] at *
    rw [greatest]
    omega

theorem isReadable_readMagnitude (cs : List Char) : IsReadable (readMagnitude cs) := by
  rw [readMagnitude_eq, IsReadable, clamp, greatest]
  omega

theorem isReadable_readInteger (s : String) : IsReadable (readInteger s) := by
  rw [readInteger]
  fun_cases readSigned (s.toList.dropWhile isBlank) with
  | case1 cs =>
    obtain ⟨hl, hg⟩ := isReadable_readMagnitude cs
    exact ⟨Int.neg_le_neg hg, Int.neg_le_of_neg_le hl⟩
  | case2 cs | case3 => exact isReadable_readMagnitude _

/-- No number of 64 bits has more than nineteen digits. -/
theorem length_decimal_le {n : Nat} (h : (n : Int) ≤ greatest + 1) : (decimal n).length ≤ 19 := by
  rw [decimal, Nat.length_toDigits_le_iff (by decide) (by decide)]
  rw [greatest] at h
  omega

theorem length_writeInteger_le {x : Int} (h : InRange x) : (writeInteger x).length ≤ 20 := by
  have hsign : (sign x).length ≤ 1 := by
    rw [sign]
    split <;> decide
  have hdigits : (decimal x.natAbs).length ≤ 19 := by
    refine length_decimal_le ?_
    simp only [InRange, least, greatest] at *
    omega
  rw [writeInteger, String.length_ofList, List.length_append]
  omega

end Text

end TitleScript
