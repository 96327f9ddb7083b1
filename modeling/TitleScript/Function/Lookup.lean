import TitleScript.Function.Context

/-!
# Functions on the record

These functions take the name of a field as text, so a script can compute which field it reads.

## Main definitions

* `Lookup.text` — a field, or one of its values
* `Lookup.joined` — the values of a field with a given text between them
* `Lookup.count` — the number of values
-/

namespace TitleScript

namespace Lookup

/-- The values of the field that the first argument names. -/
def values (ctx : Context) (args : List Outcome) : List String :=
  (ctx.record (argumentText args 0)).toList

/-- The value at a position, counted from zero. -/
def valueAt? (values : List String) (i : Int) : Option String :=
  if i < 0 then none else values[i.toNat]?

/-- All values of a field, or the one whose position the second argument gives. -/
def text (ctx : Context) (args : List Outcome) : Outcome :=
  match values ctx args with
  | [] => .missing
  | vs =>
    if args.length ≤ 1 then .ofField (ctx.settings.valueSeparator.intercalate vs)
    else ((valueAt? vs (argumentNumber args 1)).map Outcome.ofField).getD .missing

/-- The values of a field with the second argument between them. -/
def joined (ctx : Context) (args : List Outcome) : Outcome :=
  match values ctx args with
  | [] => .missing
  | vs => .ofField ((argumentText args 1).intercalate vs)

/-- The number of values of a field. -/
def count (ctx : Context) (args : List Outcome) : Outcome :=
  .literal (Text.writeNat (values ctx args).length)

end Lookup

end TitleScript
