import TitleScript.Function.Arity

/-!
# The built-in functions

This is the catalogue: which functions there are, how they are called, how many arguments they
take, and whether they look at all of their arguments. What they compute is defined by family in
the modules beside this one.

## Main definitions

* `Builtin` — the functions
* `Builtin.all`, `Builtin.name`, `Builtin.aliases`, `Builtin.arity`, `Builtin.strategy`
* `Builtin.allNames` — the names that are accepted
* `Builtin.ofName?` — the function a name stands for
-/

namespace TitleScript

/-- What a call does with the flags of its arguments. -/
inductive Strategy
  /-- Every argument is evaluated, and its flags stick to the outcome. -/
  | eager
  /-- The function looks only at the arguments it needs, and its outcome has flags of its own. -/
  | lazy
deriving DecidableEq, Repr

/-- The strategy in a word. -/
def Strategy.label : Strategy → String
  | eager => "eager"
  | lazy => "lazy"

/-- The built-in functions. -/
inductive Builtin
  | choose
  | orElse
  | firstOf
  | ifEqual
  | ifGreater
  | ifLonger
  | select
  | and
  | or
  | not
  | equal
  | equalFolded
  | greater
  | longer
  | add
  | sub
  | mul
  | div
  | mod
  | min
  | max
  | padNumber
  | left
  | right
  | middle
  | length
  | upper
  | lower
  | capitalize
  | trim
  | pad
  | replace
  | insert
  | copies
  | initials
  | lineBreak
  | tab
  | char
  | fieldText
  | fieldJoin
  | fieldCount
  | duration
deriving DecidableEq, Repr

namespace Builtin

/-- Every function, in the order in which they are listed. -/
def all : List Builtin :=
  [choose, orElse, firstOf, ifEqual, ifGreater, ifLonger, select, and, or, not,
   equal, equalFolded, greater, longer, add, sub, mul, div, mod, min, max, padNumber,
   left, right, middle, length, upper, lower, capitalize, trim, pad, replace, insert, copies,
   initials, lineBreak, tab, char, fieldText, fieldJoin, fieldCount, duration]

theorem mem_all (b : Builtin) : b ∈ all := by
  cases b <;> decide

/-- The name scripts call the function by. -/
def name : Builtin → String
  | choose => "if"
  | orElse => "if2"
  | firstOf => "if3"
  | ifEqual => "ifequal"
  | ifGreater => "ifgreater"
  | ifLonger => "iflonger"
  | select => "select"
  | and => "and"
  | or => "or"
  | not => "not"
  | equal => "strcmp"
  | equalFolded => "stricmp"
  | greater => "greater"
  | longer => "longer"
  | add => "add"
  | sub => "sub"
  | mul => "mul"
  | div => "div"
  | mod => "mod"
  | min => "min"
  | max => "max"
  | padNumber => "num"
  | left => "left"
  | right => "right"
  | middle => "substr"
  | length => "len"
  | upper => "upper"
  | lower => "lower"
  | capitalize => "caps"
  | trim => "trim"
  | pad => "pad"
  | replace => "replace"
  | insert => "insert"
  | copies => "repeat"
  | initials => "abbr"
  | lineBreak => "crlf"
  | tab => "tab"
  | char => "char"
  | fieldText => "meta"
  | fieldJoin => "meta_sep"
  | fieldCount => "meta_num"
  | duration => "timems"

/-- Other names of the function. -/
def aliases : Builtin → List String
  | left => ["cut"]
  | length => ["length"]
  | middle => ["substring"]
  | _ => []

/-- Every name of the function. -/
def names (b : Builtin) : List String :=
  b.name :: b.aliases

/-- How many arguments the function accepts. -/
def arity : Builtin → Arity
  | choose => .between 2 3
  | orElse => .exactly 2
  | firstOf | select => .atLeast 2
  | ifEqual | ifGreater | ifLonger => .exactly 4
  | and | or => .atLeast 1
  | not | length | upper | lower | capitalize | trim | initials | char => .exactly 1
  | fieldCount | duration => .exactly 1
  | equal | equalFolded | greater | longer | mod => .exactly 2
  | padNumber | left | right | copies | fieldJoin => .exactly 2
  | add | sub | mul | div | min | max => .atLeast 1
  | middle | insert => .exactly 3
  | pad => .between 2 3
  | replace => .atLeast 3
  | lineBreak => .exactly 0
  | tab => .between 0 1
  | fieldText => .between 1 2

/-- Whether the function looks at all of its arguments. -/
def strategy : Builtin → Strategy
  | choose | orElse | firstOf | ifEqual | ifGreater | ifLonger | select | and | or | not => .lazy
  | _ => .eager

/-- The name that a name stands for: an alias stands for the name of its function, and every other
name for itself. -/
def canonicalName : String → String
  | "cut" => "left"
  | "length" => "len"
  | "substring" => "substr"
  | name => name

/-- The names that are accepted, in the order in which they are listed. -/
def allNames : List String :=
  ["if", "if2", "if3", "ifequal", "ifgreater", "iflonger", "select", "and", "or", "not",
   "strcmp", "stricmp", "greater", "longer", "add", "sub", "mul", "div", "mod", "min", "max", "num",
   "left", "cut", "right", "substr", "substring", "len", "length", "upper", "lower", "caps",
   "trim", "pad", "replace", "insert", "repeat", "abbr", "crlf", "tab", "char", "meta", "meta_sep",
   "meta_num", "timems"]

/-- The function a name stands for; capital letters of ASCII are as good as small ones. -/
def ofName? (name : String) : Option Builtin :=
  all.find? fun b => b.name == canonicalName (name.map Char.toLower)

end Builtin

end TitleScript
