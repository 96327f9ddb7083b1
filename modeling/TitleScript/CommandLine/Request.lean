import TitleScript.CommandLine.Arguments
import TitleScript.Settings

/-!
# Requests

A request is what the program is asked to do, with everything the arguments say about it in its
own type. Arguments that can be read may still not be a request: a command may lack its script or
have too many operands.

## Main definitions

* `Request` — a request
* `Request.ofArguments?` — the request that arguments stand for
* `Request.files` — the files a request needs
-/

namespace TitleScript

namespace CommandLine

/-- Where a script comes from. -/
inductive Source
  | text (script : String)
  | file (path : String)
deriving DecidableEq, Repr

/-- To report on a script. -/
structure CheckRequest where
  source : Source
  /-- Fields declared to have one value. -/
  fields : List String
  /-- Fields declared to have several values. -/
  lists : List String
  asJson : Bool
  /-- Whether warnings count as failures. -/
  strict : Bool
deriving DecidableEq, Repr

/-- To evaluate a script. -/
structure EvaluateRequest where
  source : Source
  /-- The file that describes the track. -/
  track : Option String
  /-- Fields given values besides those of the file. -/
  assignments : List (String × String)
  /-- Joins the branches; without it each has a line of its own. -/
  separator : Option String
  maxBranches : Nat
  distinct : Bool
  asJson : Bool
deriving DecidableEq, Repr

/-- To list the built-in functions, perhaps only those whose names contain a text. -/
structure ListRequest where
  filter : Option String
  asJson : Bool
deriving DecidableEq, Repr

/-- What the program is asked to do. -/
inductive Request
  | check (request : CheckRequest)
  | evaluate (request : EvaluateRequest)
  | functions (request : ListRequest)
deriving DecidableEq, Repr

namespace Arguments

/-- The value of an option that is given once. -/
def value? (a : Arguments) (s : Switch) : Option String :=
  (a.valuesOf s).head?

/-- The script: an operand or a file, and only one of them. -/
def source? (a : Arguments) : Option Source :=
  match a.operands, a.value? .scriptFile with
  | [script], none => some (.text script)
  | [], some path => some (.file path)
  | _, _ => none

end Arguments

namespace Request

/-- The request that arguments stand for. A separator that the environment gives counts unless
the arguments give one. -/
def ofArguments? (a : Arguments) (separator : Option String) : Option Request := do
  match ← a.command with
  | .check => return .check {
      source := ← a.source?
      fields := a.valuesOf .declareField
      lists := a.valuesOf .declareList
      asJson := a.has .json
      strict := a.has .strict }
  | .evaluate => return .evaluate {
      source := ← a.source?
      track := a.value? .trackFile
      assignments := (a.valuesOf .assign).filterMap readAssignment?
      separator := a.value? .separator <|> separator
      maxBranches := ((a.value? .maxBranches).bind readLimit?).getD defaultSettings.maxBranches
      distinct := a.has .distinct
      asJson := a.has .json }
  | .functions =>
    guard (a.operands.length ≤ 1)
    return .functions ⟨a.operands.head?, a.has .json⟩
where
  defaultSettings : Settings := {}

/-- The files that a source needs. -/
def sourceFiles : Source → List String
  | .text _ => []
  | .file path => [path]

/-- The files a request needs. -/
def files : Request → List String
  | .check request => sourceFiles request.source
  | .evaluate request => sourceFiles request.source ++ request.track.toList
  | .functions _ => []

end Request

end CommandLine

end TitleScript
