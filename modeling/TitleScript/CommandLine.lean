import TitleScript.CommandLine.Report
import TitleScript.CommandLine.Request
import TitleScript.Engine
import TitleScript.Track.Document

/-!
# The program

The program is a function of its arguments, of a separator that the environment may give and of
the contents of the files it is asked to read. What it prints and the code it ends with are the
result.

## Main definitions

* `Files` — the contents of files
* `Exit` — the result
* `Request.run` — doing what is asked
* `run`, `neededFiles` — the whole program, and the files it will look at
-/

namespace TitleScript

namespace CommandLine

/-- The name and version of the program. -/
def versionLine : String := "titlefmt 0.1.0"

/-- The contents of every file that can be read. -/
abbrev Files := String → Option ByteArray

/-- The text in a file, if it can be read and is text in UTF-8. -/
def Files.text? (files : Files) (path : String) : Option String := do
  String.fromUTF8? (← files path)

/-! ### Results -/

/-- What the program prints, and the code it ends with. -/
structure Exit where
  code : Nat
  output : String
deriving DecidableEq, Repr

namespace Exit

/-- The program did what it was asked. -/
def success (output : String) : Exit := ⟨0, output⟩

/-- The arguments are no request. -/
def misuse : Exit := ⟨2, ""⟩

/-- The script that was checked failed. -/
def failedCheck (output : String) : Exit := ⟨65, output⟩

/-- Something that was named cannot be used. -/
def unusable : Exit := ⟨70, ""⟩

end Exit

/-- A text as a line. -/
def line (text : String) : String := text ++ "\n"

/-! ### Reading what is named -/

/-- The script in the text of a file. A line end behind the last line is not part of it. -/
def scriptOfFile (text : String) : String :=
  match text.toList.reverse with
  | '\n' :: '\r' :: cs => String.ofList cs.reverse
  | '\n' :: cs => String.ofList cs.reverse
  | _ => text

/-- The text of a script. -/
def Source.load? (files : Files) : Source → Option String
  | .text script => some script
  | .file path => (files.text? path).map scriptOfFile

/-- The registry to check against: the standard one, but closed as soon as a field is declared. -/
def CheckRequest.registry? (request : CheckRequest) : Option Registry :=
  if request.fields.isEmpty && request.lists.isEmpty then some .standard
  else
    (Registry.standard.close.addFields request.fields .single
      |>.bind (·.addFields request.lists .multi)).toOption

/-- The track of a file, or one without fields, with the values of the assignments. -/
def EvaluateRequest.track? (request : EvaluateRequest) (files : Files) : Option Track := do
  let track ← match request.track with
    | some path => (files.text? path).bind Track.ofJson?
    | none => some .empty
  return track.assign request.assignments

/-- The settings to evaluate with. -/
def EvaluateRequest.settings (request : EvaluateRequest) : Settings :=
  let standard : Settings := {}
  { standard with
    resultSeparator := request.separator.getD standard.resultSeparator
    maxBranches := request.maxBranches
    distinct := request.distinct }

/-! ### Doing what is asked -/

/-- Report on a script. -/
def CheckRequest.run (request : CheckRequest) (files : Files) : Exit :=
  match request.source.load? files, request.registry? with
  | some source, some registry =>
    let script := Script.parse source
    let warnings := script.warnings registry
    let report :=
      if request.asJson then (checkDocument script warnings).pretty
      else checkSummary script.faults.length warnings.length
    if script.isValid && !(request.strict && !warnings.isEmpty) then .success (line report)
    else .failedCheck (line report)
  | _, _ => .unusable

/-- Evaluate a script. -/
def EvaluateRequest.run (request : EvaluateRequest) (files : Files) : Exit :=
  match request.source.load? files, request.track? files with
  | some source, some track =>
    let script := Script.parse source
    let engine := Engine.standard.setSettings request.settings
    if request.asJson then
      .success (line (evaluateDocument script (engine.texts script.nodes track.field)).pretty)
    else if request.separator.isSome then
      .success (line (engine.output script.nodes track.field))
    else .success (String.join ((engine.texts script.nodes track.field).map line))
  | _, _ => .unusable

/-- List the built-in functions. -/
def ListRequest.run (request : ListRequest) : Exit :=
  let builtins := match request.filter with
    | some filter => matchingBuiltins filter
    | none => Builtin.all
  if request.asJson then .success (line (functionsDocument builtins).pretty)
  else if builtins.isEmpty then .success (line "no matching functions")
  else .success (line (functionsTable builtins).draw)

/-- Do what is asked. -/
def Request.run (files : Files) : Request → Exit
  | .check request => request.run files
  | .evaluate request => request.run files
  | .functions request => request.run

/-! ### The whole program -/

/-- What the program does with its arguments. -/
def run (args : List String) (separator : Option String) (files : Files) : Exit :=
  match Arguments.ofList args with
  | .error .version => .success (line versionLine)
  | .error .misuse => .misuse
  | .ok arguments =>
    match Request.ofArguments? arguments separator with
    | some request => request.run files
    | none => .misuse

/-- The files that the program will look at. -/
def neededFiles (args : List String) : List String :=
  match Arguments.ofList args with
  | .error _ => []
  | .ok arguments => ((Request.ofArguments? arguments none).map Request.files).getD []

end CommandLine

end TitleScript
