import TitleScript.Proofs.Text.Integer

/-!
# The number a text begins with

Which number a text begins with can be said without reading it. Some texts are integers as they
stand: blanks, at most one sign, and digits, where any of these can be missing. Among the beginnings
of a text that are integers there is a longest one, since no character is more than one of the
three, and the number it stands for is the number the text begins with. It has as many digits as
there are, and without digits it is zero.

What is read is this number if its magnitude is within the range, and otherwise the end of the
range on its side. The magnitude is kept within the range after every single digit, and is therefore
the exact one until it reaches the end of the range and stays there. Since it is never negative, its
negative is within the range as well.

## Main definitions

* `Text.IntegerText` — a text that is an integer, and its value
* `Text.LeadingInteger` — the value of the longest beginning that is an integer

## Main results

* `Text.prefix_integerPart` — which beginning is the longest
* `Text.leadingInteger_iff` — there is one such value
* `readInteger_leading` — what is read is that value, within the range
-/

namespace TitleScript

namespace Text

/-! ### Texts that are integers -/

/-- Digits behind at most one sign, and the number they stand for. -/
inductive SignedDigits : List Char → Int → Prop
  | unsigned {n : Nat} {digits : List Char} : DigitsOf n digits → SignedDigits digits n
  | plus {n : Nat} {digits : List Char} : DigitsOf n digits → SignedDigits ('+' :: digits) n
  | minus {n : Nat} {digits : List Char} : DigitsOf n digits → SignedDigits ('-' :: digits) (-n)

/-- Blanks, at most one sign and digits, any of which can be missing, and the number they stand
for. -/
def IntegerText (cs : List Char) (z : Int) : Prop :=
  ∃ blanks body, cs = blanks ++ body ∧ (∀ c ∈ blanks, isBlank c) ∧ SignedDigits body z

/-- The longest beginning of a text that is an integer stands for the number. -/
def LeadingInteger (cs : List Char) (z : Int) : Prop :=
  ∃ taken, taken <+: cs ∧ IntegerText taken z
    ∧ ∀ other, other <+: cs → (∃ y, IntegerText other y) → other.length ≤ taken.length

variable {cs taken body rest : List Char} {z : Int}

theorem digitsOf_takeWhile (cs : List Char) :
    DigitsOf (Nat.ofDigitChars 10 (cs.takeWhile Char.isDigit) 0) (cs.takeWhile Char.isDigit) where
  isDigit := List.all_eq_true.1 List.all_takeWhile
  value_eq := rfl

/-- Neither a sign nor a digit is a blank. -/
theorem SignedDigits.isBlank_eq_false {c : Char} (h : SignedDigits (c :: cs) z) :
    isBlank c = false := by
  cases h with
  | unsigned hdigits => exact isBlank_of_isDigit (hdigits.isDigit c List.mem_cons_self)
  | plus _ => decide +kernel
  | minus _ => decide +kernel

/-! ### The longest beginning -/

/-- A sign and the digits behind it, as far as a text begins with them. -/
def signedPart : List Char → List Char
  | '-' :: cs => '-' :: cs.takeWhile Char.isDigit
  | '+' :: cs => '+' :: cs.takeWhile Char.isDigit
  | cs => cs.takeWhile Char.isDigit

/-- The number that a sign and digits at the beginning of a text stand for. -/
def signedValue : List Char → Int
  | '-' :: cs => -(Nat.ofDigitChars 10 (cs.takeWhile Char.isDigit) 0 : Int)
  | '+' :: cs => Nat.ofDigitChars 10 (cs.takeWhile Char.isDigit) 0
  | cs => Nat.ofDigitChars 10 (cs.takeWhile Char.isDigit) 0

/-- Blanks, a sign and digits, as far as a text begins with them. -/
def integerPart (cs : List Char) : List Char :=
  cs.takeWhile isBlank ++ signedPart (cs.dropWhile isBlank)

theorem signedDigits_signedPart (cs : List Char) :
    SignedDigits (signedPart cs) (signedValue cs) := by
  fun_cases signedPart cs with
  | case1 cs => exact .minus (digitsOf_takeWhile cs)
  | case2 cs => exact .plus (digitsOf_takeWhile cs)
  | case3 cs hminus hplus =>
    rw [signedValue]
    · exact .unsigned (digitsOf_takeWhile cs)
    · exact hminus
    · exact hplus

theorem signedPart_isPrefix (cs : List Char) : signedPart cs <+: cs := by
  fun_cases signedPart cs with
  | case1 cs => exact List.cons_prefix_cons.2 ⟨rfl, List.takeWhile_prefix _⟩
  | case2 cs => exact List.cons_prefix_cons.2 ⟨rfl, List.takeWhile_prefix _⟩
  | case3 cs => exact List.takeWhile_prefix _

theorem integerText_integerPart (cs : List Char) :
    IntegerText (integerPart cs) (signedValue (cs.dropWhile isBlank)) :=
  ⟨cs.takeWhile isBlank, signedPart (cs.dropWhile isBlank), rfl,
    List.all_eq_true.1 List.all_takeWhile, signedDigits_signedPart _⟩

theorem integerPart_isPrefix (cs : List Char) : integerPart cs <+: cs := by
  have h := (List.prefix_append_right_inj (cs.takeWhile isBlank)).2
    (signedPart_isPrefix (cs.dropWhile isBlank))
  rwa [List.takeWhile_append_dropWhile] at h

/-- Signed digits at the beginning of a text are part of those it begins with. -/
theorem SignedDigits.prefix_signedPart (h : SignedDigits body z) (rest : List Char) :
    body <+: signedPart (body ++ rest) := by
  have hdigits {n : Nat} {digits : List Char} (h : DigitsOf n digits) :
      digits <+: (digits ++ rest).takeWhile Char.isDigit := by
    rw [List.takeWhile_append_of_pos h.isDigit]
    exact List.prefix_append _ _
  cases h with
  | plus h => exact List.cons_prefix_cons.2 ⟨rfl, hdigits h⟩
  | minus h => exact List.cons_prefix_cons.2 ⟨rfl, hdigits h⟩
  | unsigned h =>
    cases body with
    | nil => exact List.nil_prefix
    | cons c body =>
      have hc := h.isDigit c List.mem_cons_self
      rw [List.cons_append, signedPart]
      · exact hdigits h
      -- neither sign is a digit
      · rintro _ hsign
        rw [(List.cons.inj hsign).1] at hc
        contradiction
      · rintro _ hsign
        rw [(List.cons.inj hsign).1] at hc
        contradiction

/-- **Every beginning that is an integer is part of the longest one.** -/
theorem prefix_integerPart (h : taken <+: cs) (hinteger : IntegerText taken z) :
    taken <+: integerPart cs := by
  obtain ⟨rest, rfl⟩ := h
  obtain ⟨blanks, body, rfl, hblanks, hbody⟩ := hinteger
  rw [integerPart, List.append_assoc, List.takeWhile_append_of_pos hblanks,
    List.dropWhile_append_of_pos hblanks, List.append_assoc]
  refine (List.prefix_append_right_inj blanks).2 ?_
  cases body with
  | nil => exact List.nil_prefix
  | cons c body =>
    have hc : ¬isBlank c := Bool.eq_false_iff.1 hbody.isBlank_eq_false
    rw [List.cons_append, List.takeWhile_cons_of_neg hc, List.dropWhile_cons_of_neg hc]
    exact hbody.prefix_signedPart rest

/-! ### Its value -/

theorem SignedDigits.eq_signedValue (h : SignedDigits body z) : z = signedValue body := by
  have hvalue {n : Nat} {digits : List Char} (h : DigitsOf n digits) :
      n = Nat.ofDigitChars 10 (digits.takeWhile Char.isDigit) 0 := by
    rw [List.takeWhile_eq_self_iff.2 h.isDigit, h.value_eq]
  cases h with
  | plus h => exact congrArg Nat.cast (hvalue h)
  | minus h => exact congrArg (fun n : Nat => -(n : Int)) (hvalue h)
  | unsigned h =>
    rw [signedValue]
    · exact congrArg Nat.cast (hvalue h)
    · rintro _ rfl
      exact absurd (h.isDigit '-' List.mem_cons_self) (by decide)
    · rintro _ rfl
      exact absurd (h.isDigit '+' List.mem_cons_self) (by decide)

theorem IntegerText.eq_signedValue (h : IntegerText taken z) :
    z = signedValue (taken.dropWhile isBlank) := by
  obtain ⟨blanks, body, rfl, hblanks, hbody⟩ := h
  rw [List.dropWhile_append_of_pos hblanks]
  cases body with
  | nil => exact hbody.eq_signedValue
  | cons c body =>
    rw [List.dropWhile_cons_of_neg (Bool.eq_false_iff.1 hbody.isBlank_eq_false)]
    exact hbody.eq_signedValue

/-- **There is one number that a text begins with.** -/
theorem leadingInteger_iff (cs : List Char) (z : Int) :
    LeadingInteger cs z ↔ z = signedValue (cs.dropWhile isBlank) := by
  have hwhole := integerText_integerPart cs
  constructor
  · rintro ⟨taken, htaken, hinteger, hlongest⟩
    have hprefix := prefix_integerPart htaken hinteger
    have hlength := hlongest _ (integerPart_isPrefix cs) ⟨_, hwhole⟩
    obtain rfl := hprefix.eq_of_length_le hlength
    rw [hinteger.eq_signedValue, hwhole.eq_signedValue]
  · rintro rfl
    refine ⟨integerPart cs, integerPart_isPrefix cs, hwhole, ?_⟩
    rintro other hother ⟨y, hy⟩
    exact (prefix_integerPart hother hy).length_le

/-! ### Reading it -/

theorem readSigned_eq (cs : List Char) : readSigned cs = clamp (signedValue cs) := by
  fun_cases readSigned cs with
  | case1 cs => rw [readMagnitude_eq, signedValue, clamp_neg]
  | case2 cs => rw [readMagnitude_eq, signedValue]
  | case3 cs hminus hplus =>
    rw [readMagnitude_eq, signedValue]
    · exact hminus
    · exact hplus

/-- The magnitude after any number of digits. -/
theorem foldl_appendDigit_zero (digits : List Char) :
    digits.foldl appendDigit 0 = min greatest (Nat.ofDigitChars 10 digits 0 : Int) := by
  refine (foldl_appendDigit digits 0).trans ?_
  rw [clamp, Int.max_eq_right]
  rw [greatest]
  omega

end Text

open Text

/-- **What is read is the number a text begins with, within the range.** Every text begins with one
number, the value of its longest beginning that is blanks, at most one sign and digits, and that
value is read if its magnitude is within the range, and else the end of the range on its side. The
magnitude is exact after every digit until it comes to the end of the range and stays there, so
neither it nor its negative is ever beyond the range. -/
theorem readInteger_leading (s : String) :
    (∃ z, LeadingInteger s.toList z ∧ (∀ y, LeadingInteger s.toList y → y = z)
        ∧ readInteger s = max (-9223372036854775807) (min 9223372036854775807 z))
      ∧ ∀ digits : List Char,
        let magnitude := digits.foldl appendDigit 0
        magnitude = min 9223372036854775807 (Nat.ofDigitChars 10 digits 0 : Int)
          ∧ InRange magnitude ∧ InRange (-magnitude) := by
  refine ⟨⟨signedValue (s.toList.dropWhile isBlank), (leadingInteger_iff _ _).2 rfl, ?_, ?_⟩, ?_⟩
  · intro y hy
    exact (leadingInteger_iff _ _).1 hy
  · exact readSigned_eq _
  · intro digits magnitude
    have hmagnitude : magnitude = min greatest (Nat.ofDigitChars 10 digits 0 : Int) :=
      foldl_appendDigit_zero digits
    refine ⟨hmagnitude, ?_, ?_⟩
    · simp only [hmagnitude, InRange, greatest, least]
      omega
    · simp only [hmagnitude, InRange, greatest, least]
      omega

-- Beyond the range on either side, leading zeros, and a sign without digits.
example : LeadingInteger "\u3000-9223372036854775809.5".toList (-9223372036854775809)
    ∧ LeadingInteger "+0007%".toList 7 ∧ LeadingInteger " -x1".toList 0 := by
  simp only [leadingInteger_iff]
  decide +kernel

end TitleScript
