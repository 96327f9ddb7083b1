import TitleScript.Bindings
import TitleScript.Outcome
import TitleScript.Record
import TitleScript.Settings
import TitleScript.Text.Integer

/-!
# What a function works with

A function receives the outcomes of its arguments and may look at the record, at the values bound
in the branch and at the settings. Arguments are read by position, and one that is not there reads
as the empty text.

## Main definitions

* `Context` — what is the same for every call in a branch
* `argument`, `argumentText`, `argumentNumber`, `argumentCount` — reading an argument
-/

namespace TitleScript

/-- What evaluation in one branch may look at besides the script. -/
structure Context where
  record : Record
  bindings : Bindings
  settings : Settings

/-- The greatest width or number of copies a script can ask for. -/
def maxCount : Nat := 4096

/-- The argument at a position. -/
def argument (args : List Outcome) (i : Nat) : Outcome :=
  args.getD i .neutral

/-- The text of the argument at a position. -/
def argumentText (args : List Outcome) (i : Nat) : String :=
  (argument args i).text

/-- The number the argument at a position stands for. -/
def argumentNumber (args : List Outcome) (i : Nat) : Int :=
  Text.readInteger (argumentText args i)

/-- The argument at a position as a width or a number of copies: negative numbers count as zero,
and large ones are limited. -/
def argumentCount (args : List Outcome) (i : Nat) : Nat :=
  min (argumentNumber args i).toNat maxCount

end TitleScript
