/-!
# Numbers of arguments

## Main definitions

* `Arity` — how many arguments a function accepts
* `Arity.accepts`, `Arity.describe` — the test and its wording
-/

namespace TitleScript

/-- How many arguments a function accepts: at least `min`, and at most `max` if there is such a
bound. -/
structure Arity where
  min : Nat
  max : Option Nat
deriving DecidableEq, Repr

namespace Arity

/-- Exactly `n` arguments. -/
def exactly (n : Nat) : Arity := ⟨n, some n⟩

/-- From `min` to `max` arguments. -/
def between (min max : Nat) : Arity := ⟨min, some max⟩

/-- At least `min` arguments. -/
def atLeast (min : Nat) : Arity := ⟨min, none⟩

/-- Whether a call with this many arguments is accepted. -/
def accepts (a : Arity) (count : Nat) : Bool :=
  a.min ≤ count && a.max.all (count ≤ ·)

/-- The arity as text: one number, a range, or a number and a plus sign. -/
def describe (a : Arity) : String :=
  match a.max with
  | some max => if max = a.min then toString max else toString a.min ++ "-" ++ toString max
  | none => toString a.min ++ "+"

@[simp]
theorem accepts_exactly (n count : Nat) : (exactly n).accepts count = (n == count) := by
  simp only [exactly, accepts, Option.all_some]
  grind

@[simp]
theorem accepts_atLeast (min count : Nat) :
    (atLeast min).accepts count = decide (min ≤ count) :=
  Bool.and_true _

end Arity

end TitleScript
