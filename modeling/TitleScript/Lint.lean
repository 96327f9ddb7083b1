import TitleScript.Lint.Suggestion
import TitleScript.Registry
import TitleScript.Script

/-!
# Warnings

Some scripts are well formed and yet not what their author meant: they use names that are not
known, call functions with the wrong number of arguments, go through the values of a field that
has one, or put brackets around something that is always shown. Warnings point these out. They
never change what a script evaluates to.

## Main definitions

* `Warning` — a warning, with its position, wording and suggestions
* `Node.warnings`, `Node.warningsOf` — the warnings about a node and about a sequence
* `Script.warnings` — the warnings about a script, in the order of their positions
-/

namespace TitleScript

/-- A warning about a construct of a script. -/
inductive Warning
  | unknownField (name : String) (position : Nat) (suggestions : List String)
  | unknownFunction (name : String) (position : Nat) (suggestions : List String)
  | argumentCount (name : String) (position : Nat) (expected : Arity) (count : Nat)
  | listOfSingleValue (name : String) (position : Nat)
  | alwaysShown (position : Nat)
deriving DecidableEq, Repr

namespace Warning

/-- The byte position where the construct begins. -/
def position : Warning → Nat
  | unknownField _ p _ | unknownFunction _ p _ | argumentCount _ p _ _ => p
  | listOfSingleValue _ p | alwaysShown p => p

/-- The names suggested instead of an unknown one. -/
def suggested : Warning → List String
  | unknownField _ _ s | unknownFunction _ _ s => s
  | _ => []

/-- The kind of warning as an identifier. -/
def label : Warning → String
  | unknownField .. => "unknown_variable"
  | unknownFunction .. => "unknown_function"
  | argumentCount .. => "argument_count"
  | listOfSingleValue .. => "list_of_single_value"
  | alwaysShown .. => "static_conditional"

/-- The warning in words. -/
def message : Warning → String
  | unknownField name _ s =>
    "unknown variable '%" ++ name ++ "%'" ++ suggestionText (fun n => "%" ++ n ++ "%") s
  | unknownFunction name _ s =>
    "unknown function '$" ++ name ++ "'" ++ suggestionText (fun n => "$" ++ n) s
  | argumentCount name _ expected count =>
    "function '$" ++ name ++ "' expects " ++ expected.describe ++ " arguments, got "
      ++ toString count
  | listOfSingleValue name _ =>
    "'%<" ++ name ++ ">%' fans out over a single-valued field; use '%" ++ name ++ "%'"
  | alwaysShown _ => "conditional group has no fields and is always shown"

end Warning

/-! ### The warnings about one construct -/

namespace Registry

/-- The warning about a field whose name is not known. -/
def fieldWarnings (r : Registry) (position : Nat) (name : String) : List Warning :=
  if r.resolvesField name then []
  else [.unknownField name position (suggestions (lowerName name) r.fieldNames)]

/-- The warning about a list field that is not known or has one value. -/
def fieldListWarnings (r : Registry) (position : Nat) (name : String) : List Warning :=
  if r.fieldKind? name = some .single then [.listOfSingleValue name position]
  else r.fieldWarnings position name

/-- The warning about a call of a function that is not known or takes other numbers of
arguments. -/
def callWarnings (r : Registry) (position : Nat) (name : String) (count : Nat) : List Warning :=
  match r.function? name with
  | none => [.unknownFunction name position (suggestions (lowerName name) r.functionNames)]
  | some f =>
    if f.arity.accepts count then [] else [.argumentCount name position f.arity count]

end Registry

namespace Node

mutual

/-- Whether the outcome of a node can be other than text of its own: a group inside a group can
be hidden and hide the one around it. -/
def isDynamic : Node → Bool
  | .field .. | .fieldList .. | .call .. => true
  | .group _ content => anyDynamic content
  | .literal .. | .quoted .. => false

/-- Whether some node of a sequence can be other than text of its own. -/
def anyDynamic : List Node → Bool
  | [] => false
  | node :: nodes => node.isDynamic || anyDynamic nodes

end

/-- The warning about a group that is always shown. -/
def groupWarnings (position : Nat) (content : List Node) : List Warning :=
  if anyDynamic content then [] else [.alwaysShown position]

mutual

/-- The warnings about a node and what is inside it. -/
def warnings (r : Registry) : Node → List Warning
  | .literal .. | .quoted .. => []
  | .field p name => r.fieldWarnings p name
  | .fieldList p name => r.fieldListWarnings p name
  | .call p name args => r.callWarnings p name args.length ++ warningsOfArgs r args
  | .group p content => groupWarnings p content ++ warningsOf r content

/-- The warnings about a sequence. -/
def warningsOf (r : Registry) : List Node → List Warning
  | [] => []
  | node :: nodes => node.warnings r ++ warningsOf r nodes

/-- The warnings about the arguments of a call. -/
def warningsOfArgs (r : Registry) : List (List Node) → List Warning
  | [] => []
  | arg :: args => warningsOf r arg ++ warningsOfArgs r args

end

end Node

/-- The warnings about a script, in the order of their positions. -/
def Script.warnings (s : Script) (r : Registry) : List Warning :=
  (Node.warningsOf r s.nodes).mergeSort fun a b => a.position ≤ b.position

end TitleScript
