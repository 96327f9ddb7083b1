/-!
# Settings of evaluation

## Main definitions

* `Settings` — how values and branches are joined, and how many branches there may be
* `maxResultBytes` — the bound on the text of a single call
-/

namespace TitleScript

/-- The greatest number of bytes in the outcome of a call. Longer outcomes are cut. -/
def maxResultBytes : Nat := 65536

/-- Settings that shape what evaluation yields. -/
structure Settings where
  /-- Stands between the values of a field used outside a list. -/
  valueSeparator : String := ", "
  /-- Stands between the branches when they are joined. -/
  resultSeparator : String := "\x1f"
  /-- The greatest number of branches that are evaluated. -/
  maxBranches : Nat := 64
  /-- Whether a repeated result is left out. -/
  distinct : Bool := false
deriving DecidableEq, Repr

instance : Inhabited Settings := ⟨{}⟩

end TitleScript
