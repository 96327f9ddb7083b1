import TitleScript.Function.Context

/-!
# Functions on numbers

Arithmetic goes through the arguments from left to right and stays within the range of 64 bits:
sums and products that leave it stop at its end, and a quotient or remainder that does not exist
leaves the number it was to be taken of.

## Main definitions

* `Number.foldArguments` — an operation carried through all arguments
* `Number.quotient`, `Number.remainder` — division toward zero
* `Number.padded` — a number with zeros before it
* `Number.duration` — milliseconds as hours, minutes and seconds
-/

namespace TitleScript

namespace Number

open Text

/-! ### Arithmetic -/

/-- Whether the quotient of two numbers exists and lies within the range. -/
def hasQuotient (n d : Int) : Bool :=
  d != 0 && !(n == least && d == -1)

/-- The quotient rounded toward zero, or `n` where there is none. -/
def quotient (n d : Int) : Int :=
  if hasQuotient n d then n.tdiv d else n

/-- The remainder that has the sign of `n`, or `n` where there is none. -/
def remainder (n d : Int) : Int :=
  if hasQuotient n d then n.tmod d else n

/-- The number that an operation makes of the arguments, from left to right. -/
def foldNumbers (op : Int → Int → Int) : List Int → Int
  | [] => 0
  | n :: ns => ns.foldl op n

/-- An operation carried through all arguments. -/
def foldArguments (op : Int → Int → Int) (args : List Outcome) : Outcome :=
  .literal (writeInteger (foldNumbers op (args.map fun a => readInteger a.text)))

/-- The sum of all arguments. -/
def add : List Outcome → Outcome := foldArguments fun m n => saturate (m + n)

/-- The first argument less all others. -/
def sub : List Outcome → Outcome := foldArguments fun m n => saturate (m - n)

/-- The product of all arguments. -/
def mul : List Outcome → Outcome := foldArguments fun m n => saturate (m * n)

/-- The first argument divided by all others. -/
def div : List Outcome → Outcome := foldArguments quotient

/-- The remainder of the first argument by the second, and so on. -/
def mod : List Outcome → Outcome := foldArguments remainder

/-- The least argument. -/
def minimum : List Outcome → Outcome := foldArguments min

/-- The greatest argument. -/
def maximum : List Outcome → Outcome := foldArguments max

/-- The first number is greater than the second. -/
def greater (args : List Outcome) : Outcome :=
  .ofBool (argumentNumber args 1 < argumentNumber args 0)

/-! ### Written forms -/

/-- The first argument with zeros up to the width that the second one gives. -/
def padded (args : List Outcome) : Outcome :=
  .literal (writePadded (argumentCount args 1) (argumentNumber args 0))

/-- Seconds as minutes and seconds, with hours before them from one hour up. -/
def writeDuration (seconds : Nat) : String :=
  if seconds < 3600 then
    writeNat (seconds / 60) ++ ":" ++ writeTwoDigits (seconds % 60)
  else
    writeNat (seconds / 3600) ++ ":" ++ writeTwoDigits (seconds / 60 % 60) ++ ":"
      ++ writeTwoDigits (seconds % 60)

/-- A number of milliseconds as a duration; negative numbers count as zero. -/
def duration (args : List Outcome) : Outcome :=
  .literal (writeDuration ((argumentNumber args 0).toNat / 1000))

example : writeDuration 59 = "0:59" ∧ writeDuration 3599 = "59:59" ∧ writeDuration 3661 = "1:01:01"
    := by decide +kernel

end Number

end TitleScript
