import TitleScript.Bindings
import TitleScript.Record
import TitleScript.Registry
import TitleScript.Script.Node

/-!
# Fan-out over list fields

A script with list fields is evaluated once for every combination of their values. The plan of a
fan-out holds the distinct list fields that are known, in the order in which the script first uses
them, with their values. A field without values has one choice, which leaves it unbound.

The combinations are gone through as an odometer turns. There is an index for each field, all of
them 0 at first. A step turns the index of the field used last, and an index that comes round begins
again and turns the one before it. So the first field varies slowest, and a limit on the number of
branches keeps a beginning of the enumeration without building the rest.

## Main definitions

* `Node.listFields`, `Node.listFieldsOf` — the list fields of a node and of a sequence
* `FanOut`, `FanOut.plan` — the fields and their values
* `FanOut.branchCount` — the number of combinations
* `FanOut.bind`, `FanOut.advance` — the bindings that the indices stand for, and the next indices
* `FanOut.branches` — the bindings of each branch
-/

namespace TitleScript

namespace Node

mutual

/-- The names of the list fields in a node, as written and in source order. -/
def listFields : Node → List String
  | .fieldList _ name => [name]
  | .call _ _ args => listFieldsOfArgs args
  | .group _ content => listFieldsOf content
  | .literal _ _ | .quoted _ _ | .field _ _ => []

/-- The names of the list fields in a sequence, as written and in source order. -/
def listFieldsOf : List Node → List String
  | [] => []
  | node :: nodes => node.listFields ++ listFieldsOf nodes

/-- The names of the list fields in the arguments of a call. -/
def listFieldsOfArgs : List (List Node) → List String
  | [] => []
  | arg :: args => listFieldsOf arg ++ listFieldsOfArgs args

end

end Node

/-- The greatest number of branches that is told apart from larger ones. It has 64 bits. -/
def maxBranchCount : Nat := 18446744073709551615

/-- The known list fields of a script in the order of their first use, with their values. -/
structure FanOut where
  fields : List (String × List String)
deriving DecidableEq, Repr

namespace FanOut

/-- The distinct list fields of a sequence in lower case, in the order of their first use. -/
def fieldNames (nodes : List Node) : List String :=
  ((Node.listFieldsOf nodes).map lowerName).eraseDups

/-- The plan for a sequence and a record. -/
def plan (nodes : List Node) (registry : Registry) (record : Record) : FanOut where
  fields := ((fieldNames nodes).filter registry.resolvesField).map fun name =>
    (name, (record name).toList)

/-- The number of choices for a field with the given values. -/
def choices (values : List String) : Nat :=
  max 1 values.length

/-- The number of combinations. -/
def branchCount (plan : FanOut) : Nat :=
  plan.fields.foldl (fun count field => min maxBranchCount (count * choices field.2)) 1

/-- The bindings made by an index for each field. An index that none of the values has leaves the
field unbound. -/
def bind (fields : List (String × List String)) (indices : List Nat) : Bindings :=
  ⟨(fields.zip indices).filterMap fun (field, i) => field.2[i]?.map (field.1, ·)⟩

/-- The indices after one step, and whether all of them came round. -/
def turn : List (String × List String) → List Nat → List Nat × Bool
  | (_, values) :: fields, i :: indices =>
    match turn fields indices with
    | (indices, false) => (i :: indices, false)
    | (indices, true) =>
      if i + 1 < values.length then ((i + 1) :: indices, false) else (0 :: indices, true)
  | _, indices => (indices, true)

/-- The indices of the next combination. After the last one comes the first again. -/
def advance (fields : List (String × List String)) (indices : List Nat) : List Nat :=
  (turn fields indices).1

/-- The bindings already made, last one first, and those of as many combinations as are asked for
from the given indices on. -/
def branchesFrom (fields : List (String × List String)) :
    Nat → List Nat → List Bindings → List Bindings
  | 0, _, made => made.reverse
  | count + 1, indices, made =>
    branchesFrom fields count (advance fields indices) (bind fields indices :: made)

/-- The first combinations in order, at most `limit` of them but always one. -/
def branches (plan : FanOut) (limit : Nat) : List Bindings :=
  branchesFrom plan.fields (min plan.branchCount (max 1 limit)) (plan.fields.map fun _ => 0) []

-- The field used first varies slowest, and one without values stays unbound.
example : (branches ⟨[("a", ["1", "2"]), ("b", []), ("c", ["x", "y"])]⟩ 3).map (·.entries)
    = [[("a", "1"), ("c", "x")], [("a", "1"), ("c", "y")], [("a", "2"), ("c", "x")]] := by
  decide +kernel

end FanOut

end TitleScript
