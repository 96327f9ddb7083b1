import TitleScript.Text.Blank

/-!
# Whole numbers as text

Scripts compute with whole numbers of 64 bits, signed, and every number is text before and after.
Reading never fails: it takes the number a text begins with, after blanks and one sign, and what is
no number is zero. Where a result would leave the range it stops at the end of the range.

The magnitude is read before the sign is applied, so the least number a text can stand for is one
above the least number of the range.

## Main definitions

* `Text.saturate` — the nearest number within the range
* `Text.readInteger` — the number a text begins with
* `Text.writeInteger` — a number in decimal
* `Text.writePadded` — a number in decimal, with zeros up to a width
-/

namespace TitleScript

namespace Text

/-! ### The range -/

/-- The greatest number of 64 bits. -/
def greatest : Int := 9223372036854775807

/-- The least number of 64 bits. -/
def least : Int := -9223372036854775808

/-- The number of the range nearest to `x`. -/
def saturate (x : Int) : Int :=
  max least (min greatest x)

theorem least_le_saturate (x : Int) : least ≤ saturate x :=
  Int.le_max_left least _

theorem saturate_le_greatest (x : Int) : saturate x ≤ greatest :=
  Int.max_le.2 ⟨by decide, Int.min_le_left greatest x⟩

/-! ### Reading -/

/-- The value of a decimal digit. -/
def digitValue (c : Char) : Nat :=
  c.toNat - '0'.toNat

/-- The number `acc` with one more digit written behind it, within the range. -/
def appendDigit (acc : Int) (c : Char) : Int :=
  saturate (saturate (acc * 10) + digitValue c)

/-- The number that the digits at the beginning of a text stand for. -/
def readMagnitude (cs : List Char) : Int :=
  (cs.takeWhile Char.isDigit).foldl appendDigit 0

/-- The number a text without blanks before it begins with. -/
def readSigned : List Char → Int
  | '-' :: cs => -readMagnitude cs
  | '+' :: cs => readMagnitude cs
  | cs => readMagnitude cs

/-- The number a text begins with: blanks, at most one sign, and decimal digits. -/
def readInteger (s : String) : Int :=
  readSigned (s.toList.dropWhile isBlank)

/-! ### Writing -/

/-- A natural number in decimal. -/
def decimal (n : Nat) : List Char :=
  Nat.toDigits 10 n

/-- The sign of a number, written only when it is negative. -/
def sign (x : Int) : List Char :=
  if x < 0 then ['-'] else []

/-- A number in decimal. -/
def writeInteger (x : Int) : String :=
  String.ofList (sign x ++ decimal x.natAbs)

/-- A natural number in decimal. -/
def writeNat (n : Nat) : String :=
  String.ofList (decimal n)

/-- A number in decimal, with zeros between sign and digits up to `width` characters in all. -/
def writePadded (width : Nat) (x : Int) : String :=
  String.ofList (sign x
    ++ List.replicate (width - (sign x ++ decimal x.natAbs).length) '0' ++ decimal x.natAbs)

/-- A natural number in at least two digits. -/
def writeTwoDigits (n : Nat) : String :=
  writePadded 2 n

-- Blanks and one sign come before the digits, and what follows them does not matter.
example : readInteger " \u3000-07 1" = -7 ∧ readInteger "+5" = 5 ∧ readInteger "--5" = 0
    ∧ readInteger "٣" = 0 := by decide +kernel

-- A number beyond the range stops at its end, on the same magnitude for either sign.
example : readInteger "9223372036854775808" = greatest
    ∧ readInteger "-9223372036854775808" = -greatest := by decide +kernel

example : writePadded 4 (-7) = "-007" ∧ writePadded 1 12 = "12" := by decide +kernel

end Text

end TitleScript
