import TitleScript.CommandLine.Switch

/-!
# Reading arguments

The arguments of the program are options and operands. Up to the command, which is the first
operand, the options of the program count, and behind it those of the command. Two dashes alone
end the options, and one dash alone is an operand.

A value stands behind an equals sign, or is the next argument unless that looks like an option.
Letters can be put together behind one dash; the first that takes a value ends them, and what
stands behind it is the value.

Arguments are read from left to right, and the first that cannot be understood decides. So does a
request for the version, which leaves the rest unread.

## Main definitions

* `Arguments` — what has been said so far
* `Stop` — why reading ends early
* `Arguments.add`, `Arguments.addOperand` — one more option or operand
* `Arguments.ofList` — reading all arguments
-/

namespace TitleScript

namespace CommandLine

/-- Why reading ends before the last argument. -/
inductive Stop
  /-- The version is asked for. -/
  | version
  /-- An argument cannot be understood. -/
  | misuse
deriving DecidableEq, Repr

/-- What the arguments say: the command, the options behind it with their values, and the
operands. -/
structure Arguments where
  command : Option Command
  given : List (Switch × String)
  operands : List String
deriving DecidableEq, Repr

namespace Arguments

/-- What no arguments say. -/
def empty : Arguments := ⟨none, [], []⟩

/-! ### Looking at what is given -/

/-- The values of an option in the order given. An option without a value has the empty text. -/
def valuesOf (a : Arguments) (s : Switch) : List String :=
  (a.given.filter fun entry => entry.1 == s).map (·.2)

/-- Whether an option is given. -/
def has (a : Arguments) (s : Switch) : Bool :=
  !(a.valuesOf s).isEmpty

/-! ### Adding what an argument says -/

/-- One more option with its value. -/
def add (a : Arguments) (s : Switch) (value : String) : Except Stop Arguments :=
  if s = .version then .error .version
  else if (s.repeats || !a.has s) && s.accepts value then
    .ok { a with given := a.given ++ [(s, value)] }
  else .error .misuse

/-- One more operand. Options before the command do not count as given behind it. -/
def addOperand (a : Arguments) (text : String) : Except Stop Arguments :=
  match a.command with
  | some _ => .ok { a with operands := a.operands ++ [text] }
  | none => match Command.ofName? text with
    | some c => .ok ⟨some c, [], []⟩
    | none => .error .misuse

/-- The operands behind two dashes. No command can be among them. -/
def addRest (a : Arguments) (texts : List String) : Except Stop Arguments :=
  match a.command with
  | some _ => .ok { a with operands := a.operands ++ texts }
  | none => .error .misuse

/-- An option by its name, perhaps with a value behind an equals sign. The option comes back if
its value still has to be read. -/
def addLong (a : Arguments) (cs : List Char) : Except Stop (Arguments × Option Switch) :=
  let (name, value) := cs.span (· != '=')
  match (Switch.available a.command).find? (fun s => s.long.toList == name), value with
  | none, _ => .error .misuse
  | some s, _ :: value => do
    if s.takesValue then return (← a.add s (String.ofList value), none)
    else throw .misuse
  | some s, [] => do
    if s.takesValue then return (a, some s)
    else return (← a.add s "", none)

/-- Options by their letters. The last option comes back if its value still has to be read. -/
def addLetters (a : Arguments) : List Char → Except Stop (Arguments × Option Switch)
  | [] => .ok (a, none)
  | c :: cs =>
    match (Switch.available a.command).find? fun s => s.short? == some c with
    | none => .error .misuse
    | some s =>
      if s.takesValue then
        if cs.isEmpty then .ok (a, some s)
        else do
          let value := if cs.head? = some '=' then cs.tail else cs
          return (← a.add s (String.ofList value), none)
      else do (← a.add s "").addLetters cs

/-! ### Reading -/

/-- Whether an argument looks like an option. -/
def isOptionLike (arg : String) : Bool :=
  arg.toList.head? == some '-' && arg != "-"

/-- Read arguments behind those that `a` stands for. The value of `pending` has to come next. -/
def read (a : Arguments) (pending : Option Switch) : List String → Except Stop Arguments
  | [] => if pending.isSome then .error .misuse else .ok a
  | arg :: args =>
    match pending, isOptionLike arg, arg.toList with
    | some _, true, _ => .error .misuse
    | some s, false, _ => do (← a.add s arg).read none args
    | none, true, ['-', '-'] => a.addRest args
    | none, true, '-' :: '-' :: cs => do
      let (a, pending) ← a.addLong cs
      a.read pending args
    | none, true, cs => do
      let (a, pending) ← a.addLetters (cs.drop 1)
      a.read pending args
    | none, false, _ => do (← a.addOperand arg).read none args

/-- Read all arguments. -/
def ofList (args : List String) : Except Stop Arguments :=
  empty.read none args

-- Letters, values in either place, and operands behind two dashes.
example : ofList ["-v", "eval", "-vf=a=1", "--json", "--separator", "-", "--", "-x"]
    = .ok ⟨some .evaluate,
        [(.verbose, ""), (.assign, "a=1"), (.json, ""), (.separator, "-")], ["-x"]⟩ := by
  cbv

-- What comes first decides.
example : ofList ["--version", "--unknown"] = .error .version := by cbv

example : ofList ["--color", "--version"] = .error .misuse := by cbv

example : ofList ["check", "--version"] = .error .misuse := by cbv

example : ofList ["check", "--json", "--json"] = .error .misuse := by cbv

end Arguments

end CommandLine

end TitleScript
