import TitleScript.Script.Assembly

/-!
# Scripts

A script is a text together with the tree it was read as and the faults found on the way, in the
order of their positions. Reading is a function of the text alone and never fails.

## Main definitions

* `Script` — a script that has been read
* `Script.parse` — reading a script
-/

namespace TitleScript

/-- A script that has been read. -/
structure Script where
  source : String
  nodes : List Node
  faults : List Fault
deriving Repr, BEq

namespace Script

/-- The script without any text, which is also the one before any has been read. -/
def empty : Script := ⟨"", [], []⟩

instance : Inhabited Script := ⟨empty⟩

/-- Read a script. -/
def parse (source : String) : Script :=
  let (nodes, faults) := (Assembly.ofTokens (Token.scan source.toList)).finish
  ⟨source, nodes, faults.mergeSort fun a b => a.position ≤ b.position⟩

@[simp]
theorem source_parse (source : String) : (parse source).source = source := rfl

/-- Whether reading found nothing wrong. -/
def isValid (s : Script) : Bool :=
  s.faults.isEmpty

end Script

end TitleScript
