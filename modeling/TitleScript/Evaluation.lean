import TitleScript.FanOut
import TitleScript.Script

/-!
# Evaluation

Every branch of the fan-out walks the tree once. Evaluation never fails: a name that is not known
yields no text and a flag, which a group around it turns into no output at all.

## Main definitions

* `evalField`, `evalFieldList`, `evalCall`, `evalGroup` — one construct, its parts evaluated
* `Node.eval`, `Node.evalSequence`, `Node.evalArgs` — a node, a sequence, the arguments of a call
* `evaluate` — the outcome of every branch
* `collect`, `joinResults` — the texts of the branches, one by one or as one text
-/

namespace TitleScript

/-! ### One construct -/

/-- A field used for itself: all of its values joined. -/
def evalField (registry : Registry) (ctx : Context) (name : String) : Outcome :=
  if registry.resolvesField name then
    match ctx.record name with
    | .missing => .missing
    | .single value => .ofField value
    | .multi values => .ofField (ctx.settings.valueSeparator.intercalate values)
  else .unresolved

/-- A list field: the value bound in the branch. -/
def evalFieldList (registry : Registry) (ctx : Context) (name : String) : Outcome :=
  if registry.resolvesField name then
    match ctx.bindings.get? name with
    | some value => .ofField value
    | none => .missing
  else .unresolved

/-- A call with its arguments evaluated. A name that is not known and a number of arguments that
is not accepted make the call itself unresolved. -/
def evalCall (registry : Registry) (ctx : Context) (name : String) (args : List Outcome) :
    Outcome :=
  match registry.function? name with
  | some f => if f.arity.accepts args.length then f.apply ctx args else .unresolved
  | none => .unresolved

/-- A group with its content evaluated. A group that is not shown keeps its flags, so a group
around it is not shown either. -/
def evalGroup (content : Outcome) : Outcome :=
  if content.success && !content.isEmpty then .literal content.text
  else { content with text := "" }

/-! ### The walk over the tree -/

mutual

/-- The outcome of a node. -/
def Node.eval (registry : Registry) (ctx : Context) : Node → Outcome
  | .literal _ text | .quoted _ text => .literal text
  | .field _ name => evalField registry ctx name
  | .fieldList _ name => evalFieldList registry ctx name
  | .call _ name args => evalCall registry ctx name (Node.evalArgs registry ctx args)
  | .group _ content => evalGroup (Node.evalSequenceFrom registry ctx .neutral content)

/-- The outcome of a sequence behind one whose outcome is known. -/
def Node.evalSequenceFrom (registry : Registry) (ctx : Context) (before : Outcome) :
    List Node → Outcome
  | [] => before
  | node :: nodes =>
    Node.evalSequenceFrom registry ctx (before.append (node.eval registry ctx)) nodes

/-- The outcomes of the arguments of a call. -/
def Node.evalArgs (registry : Registry) (ctx : Context) : List (List Node) → List Outcome
  | [] => []
  | arg :: args =>
    Node.evalSequenceFrom registry ctx .neutral arg :: Node.evalArgs registry ctx args

end

/-- The outcome of a sequence. -/
def Node.evalSequence (registry : Registry) (ctx : Context) (nodes : List Node) : Outcome :=
  Node.evalSequenceFrom registry ctx .neutral nodes

/-- The outcomes of a sequence, one for every branch of its fan-out. -/
def evaluate (nodes : List Node) (registry : Registry) (record : Record) (settings : Settings) :
    List Outcome :=
  ((FanOut.plan nodes registry record).branches settings.maxBranches).map fun bindings =>
    Node.evalSequence registry ⟨record, bindings, settings⟩ nodes

/-! ### The texts of the branches -/

/-- The texts of the branches, each text once if the settings say so. -/
def collect (settings : Settings) (results : List Outcome) : List String :=
  if settings.distinct then (results.map Outcome.text).eraseDups else results.map Outcome.text

/-- The texts of the branches as one text. -/
def joinResults (settings : Settings) (results : List Outcome) : String :=
  settings.resultSeparator.intercalate (collect settings results)

end TitleScript
