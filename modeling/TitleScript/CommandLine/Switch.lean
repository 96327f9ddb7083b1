import TitleScript.Text.Integer

/-!
# Commands and options

An option has a name behind two dashes, and some have a letter behind one dash as well. Some
options only say that they are given; the others are followed by a value.

## Main definitions

* `Command` — the commands
* `Switch` — the options
* `Switch.long`, `Switch.short?`, `Switch.takesValue`, `Switch.repeats`, `Switch.accepts`
* `Switch.available` — the options that may be given before a command and behind it
* `readAssignment?`, `readLimit?` — what the values of two options stand for
-/

namespace TitleScript

namespace CommandLine

/-! ### Commands -/

/-- What the program can be asked to do. -/
inductive Command
  /-- Report the faults of a script and the warnings about it. -/
  | check
  /-- Evaluate a script against a track. -/
  | evaluate
  /-- List the built-in functions. -/
  | functions
deriving DecidableEq, Repr

namespace Command

/-- The word that names the command. -/
def name : Command → String
  | check => "check"
  | evaluate => "eval"
  | functions => "functions"

/-- The command that a word names. -/
def ofName? (word : String) : Option Command :=
  [check, evaluate, functions].find? fun c => c.name == word

end Command

/-! ### Values of options -/

/-- A name and a value with an equals sign between them; the first one counts. -/
def readAssignment? (text : String) : Option (String × String) :=
  match text.toList.span (· != '=') with
  | (name, _ :: value) => some (String.ofList name, String.ofList value)
  | (_, []) => none

/-- A number of 64 bits in decimal, perhaps with a plus sign. -/
def readLimit? (text : String) : Option Nat :=
  let digits := match text.toList with
    | '+' :: cs => cs
    | cs => cs
  let n := digits.foldl (fun n c => 10 * n + Text.digitValue c) 0
  if !digits.isEmpty && digits.all Char.isDigit && n ≤ 18446744073709551615 then some n else none

example : readAssignment? "a=b=c" = some ("a", "b=c") ∧ readAssignment? "a" = none := by
  decide +kernel

example : readLimit? "+07" = some 7 ∧ readLimit? "+" = none ∧ readLimit? "7x" = none
    ∧ readLimit? "18446744073709551616" = none := by decide +kernel

/-! ### Options -/

/-- The options. -/
inductive Switch
  | color
  | verbose
  | version
  | scriptFile
  | declareField
  | declareList
  | json
  | strict
  | trackFile
  | assign
  | separator
  | maxBranches
  | distinct
deriving DecidableEq, Repr

namespace Switch

/-- The name that stands behind two dashes. -/
def long : Switch → String
  | color => "color"
  | verbose => "verbose"
  | version => "version"
  | scriptFile => "file"
  | declareField => "var"
  | declareList => "list"
  | json => "json"
  | strict => "strict"
  | trackFile => "track"
  | assign => "field"
  | separator => "separator"
  | maxBranches => "max-branches"
  | distinct => "dedup"

/-- The letter that stands behind one dash. -/
def short? : Switch → Option Char
  | verbose => some 'v'
  | version => some 'V'
  | assign => some 'f'
  | _ => none

/-- Whether a value follows. -/
def takesValue : Switch → Bool
  | verbose | version | json | strict | distinct => false
  | _ => true

/-- Whether the option may be given more than once. -/
def repeats : Switch → Bool
  | verbose | declareField | declareList | assign => true
  | _ => false

/-- Whether a text can be the value of the option. -/
def accepts : Switch → String → Bool
  | color, text => ["auto", "always", "never"].contains text
  | scriptFile, text | trackFile, text => !text.isEmpty
  | assign, text => (readAssignment? text).isSome
  | maxBranches, text => (readLimit? text).isSome
  | _, _ => true

/-- The options that may be given before a command, and those behind one. -/
def available : Option Command → List Switch
  | none => [color, verbose, version]
  | some .check => [color, verbose, scriptFile, declareField, declareList, json, strict]
  | some .evaluate =>
    [color, verbose, scriptFile, trackFile, assign, separator, maxBranches, distinct, json]
  | some .functions => [color, verbose, json]

end Switch

end CommandLine

end TitleScript
