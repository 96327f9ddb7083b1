import Std.Data.ExtTreeMap
import TitleScript.Function
import TitleScript.Name
import TitleScript.Script.Character

/-!
# The names a script can use

A registry knows fields and functions, each by its normalized name; the two never interfere
because a script tells them apart. An open registry lets a script use any other field name as
well, and leaves it to the record whether the field has a value.

Names that no script could use are refused.

## Main definitions

* `Registry` — the known names
* `Registry.empty`, `Registry.standard` — the registries to start from
* `Registry.addField`, `Registry.addFields`, `Registry.addFunction`, `Registry.close`
* `Registry.fieldKind?`, `Registry.resolvesField`, `Registry.function?`, `Registry.classify`
-/

namespace TitleScript

/-- Whether a field may have several values. -/
inductive FieldKind
  | single
  | multi
deriving DecidableEq, Repr

/-- Why a name is refused. -/
inductive NameError
  | invalidFunction (name : String)
  | invalidField (name : String)
deriving DecidableEq, Repr

/-- The reason in words. -/
def NameError.message : NameError → String
  | .invalidFunction name =>
    "invalid function name '" ++ name ++ "': use letters, digits and '_' only"
  | .invalidField name => "invalid variable name '" ++ name ++ "'"

/-- What a name refers to. -/
inductive NameKind
  | field
  | fieldList
  | function (arity : Arity)
  | unknown
deriving DecidableEq, Repr

/-- The names a script can use: fields and functions by their normalized names, and whether all
other field names are known too. -/
structure Registry where
  fields : Std.ExtTreeMap String FieldKind
  functions : Std.ExtTreeMap String Function
  isOpen : Bool

namespace Registry

/-! ### Making a registry -/

/-- No names at all. -/
def empty : Registry := ⟨∅, ∅, false⟩

/-- The built-in functions under all names that are accepted. -/
def builtins : Std.ExtTreeMap String Function :=
  .ofList (Builtin.allNames.filterMap fun name =>
    (Builtin.ofName? name).map fun b => (name, Function.ofBuiltin b))

/-- The built-in functions, and every field name. -/
def standard : Registry := ⟨∅, builtins, true⟩

/-- The registry without the field names that are known only because it is open. -/
def close (r : Registry) : Registry := { r with isOpen := false }

/-- The registry with one more field. The last kind given to a name counts. -/
def addField (r : Registry) (name : String) (kind : FieldKind) : Except NameError Registry :=
  if isReferenceable (Text.trim name) then
    .ok { r with fields := r.fields.insert (normalizeName name) kind }
  else .error (.invalidField name)

/-- The registry with more fields of one kind, or the first reason to refuse one. -/
def addFields (r : Registry) (names : List String) (kind : FieldKind) :
    Except NameError Registry :=
  names.foldlM (fun r name => r.addField name kind) r

/-- The registry with one more function. The last function given to a name counts. -/
def addFunction (r : Registry) (name : String) (f : Function) : Except NameError Registry :=
  if isCallable name then
    .ok { r with functions := r.functions.insert (lowerName name) f }
  else .error (.invalidFunction name)

/-! ### Looking names up -/

/-- The kind of a field that the registry lists. -/
def fieldKind? (r : Registry) (name : String) : Option FieldKind :=
  r.fields[normalizeName name]?

/-- Whether a script can use the field. -/
def resolvesField (r : Registry) (name : String) : Bool :=
  r.isOpen || (r.fieldKind? name).isSome

/-- The function of a name. -/
def function? (r : Registry) (name : String) : Option Function :=
  r.functions[normalizeName name]?

/-- What a name refers to: a listed field, a function, or any field of an open registry. -/
def classify (r : Registry) (name : String) : NameKind :=
  match r.fieldKind? name, r.function? name with
  | some .single, _ => .field
  | some .multi, _ => .fieldList
  | none, some f => .function f.arity
  | none, none => if r.isOpen then .field else .unknown

/-- The normalized names of the listed fields, in order. -/
def fieldNames (r : Registry) : List String :=
  r.fields.keys

/-- The normalized names of the functions, in order. -/
def functionNames (r : Registry) : List String :=
  r.functions.keys

end Registry

end TitleScript
