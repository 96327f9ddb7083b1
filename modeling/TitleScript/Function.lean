import TitleScript.Function.Builtin
import TitleScript.Function.Control
import TitleScript.Function.Lookup
import TitleScript.Function.Number
import TitleScript.Function.Textual

/-!
# Functions

A function that a script can call is a built-in one or one that the host of the scripts supplies.
Either way it turns the outcomes of its arguments into an outcome, and its strategy says whether
the flags of the arguments stick to it.

## Main definitions

* `Builtin.run` — what a built-in function computes
* `Function` — a function with the numbers of arguments it accepts
* `Function.apply` — the outcome of a call
-/

namespace TitleScript

/-- What a built-in function computes from the outcomes of its arguments. -/
def Builtin.run (ctx : Context) : Builtin → List Outcome → Outcome
  | .choose => Control.choose
  | .orElse => Control.orElse
  | .firstOf => Control.firstOf
  | .ifEqual => Control.chooseBy Control.equalNumbers
  | .ifGreater => Control.chooseBy Control.greaterNumber
  | .ifLonger => Control.chooseBy Control.longerThan
  | .select => Control.select
  | .and => Control.conjunction
  | .or => Control.disjunction
  | .not => Control.negation
  | .equal => Textual.equal
  | .equalFolded => Textual.equalFolded
  | .greater => Number.greater
  | .longer => Textual.longer
  | .add => Number.add
  | .sub => Number.sub
  | .mul => Number.mul
  | .div => Number.div
  | .mod => Number.mod
  | .min => Number.minimum
  | .max => Number.maximum
  | .padNumber => Number.padded
  | .left => Textual.left
  | .right => Textual.right
  | .middle => Textual.middle
  | .length => Textual.length
  | .upper => Textual.upper
  | .lower => Textual.lower
  | .capitalize => Textual.capitalize
  | .trim => Textual.trim
  | .pad => Textual.pad
  | .replace => Textual.replace
  | .insert => Textual.insert
  | .copies => Textual.copies
  | .initials => Textual.initials
  | .lineBreak => fun _ => Textual.lineBreak
  | .tab => Textual.tab
  | .char => Textual.char
  | .fieldText => Lookup.text ctx
  | .fieldJoin => Lookup.joined ctx
  | .fieldCount => Lookup.count ctx
  | .duration => Number.duration

/-- What a function computes: a built-in, or one that the host supplies. -/
inductive Function.Body
  | builtin (b : Builtin)
  | custom (strategy : Strategy) (run : Context → List Outcome → Outcome)

/-- A function that a script can call. -/
structure Function where
  arity : Arity
  body : Function.Body

namespace Function

/-- A built-in function with the numbers of arguments it is meant for. -/
def ofBuiltin (b : Builtin) : Function := ⟨b.arity, .builtin b⟩

/-- Whether the flags of the arguments stick to the outcome. -/
def strategy (f : Function) : Strategy :=
  match f.body with
  | .builtin b => b.strategy
  | .custom s _ => s

/-- What the function computes from the outcomes of its arguments. -/
def run (f : Function) (ctx : Context) (args : List Outcome) : Outcome :=
  match f.body with
  | .builtin b => b.run ctx args
  | .custom _ run => run ctx args

/-- The outcome of a call, with the flags that stick to it and its text cut to size. -/
def apply (f : Function) (ctx : Context) (args : List Outcome) : Outcome :=
  let result := f.run ctx args
  let flagged := match f.strategy with
    | .eager => args.foldl Outcome.absorb result
    | .lazy => result
  flagged.truncate maxResultBytes

end Function

end TitleScript
