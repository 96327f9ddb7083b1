import TitleScript.Proofs.Function
import TitleScript.Proofs.Partial

/-!
# Functions never leave the range of an operation

Every built-in function is carried out here with operations that fail outside of their range, and it
never comes to that. The functions keep their operations within the range by themselves: an argument
is looked up only if it is there, widths and positions are limited, a subtraction comes behind the
comparison that makes it possible, and a text is parted where one of its characters begins. Nothing
is asked of the arguments, neither their number nor what is in them, so a function can be registered
for other numbers of arguments than it is meant for.

## Main definitions

* `argument?`, `argumentNumber?`, `argumentCount?` — reading an argument
* `Builtin.run?`, `Builtin.call?` — what a function computes, and the outcome of a call

## Main results

* `argument?_eq`, `arguments?_eq` — reading arguments never fails
* `Textual.splitAt?_clusterPosition` — a text can be parted between its characters
* `Builtin.run?_eq` — no function fails
* `operations_within_range` — no function, no cut and no call fails
-/

namespace TitleScript

open Text

/-! ### Reading arguments -/

/-- The argument at a position, which is looked up only if it is there. -/
def argument? (args : List Outcome) (i : Nat) : Option Outcome :=
  if i < args.length then args[i]? else some .neutral

/-- The text of the argument at a position. -/
def argumentText? (args : List Outcome) (i : Nat) : Option String := do
  let arg ← argument? args i
  some arg.text

/-- The number the argument at a position stands for, read with operations that can fail. -/
def argumentNumber? (args : List Outcome) (i : Nat) : Option Int := do
  let text ← argumentText? args i
  readInteger? text

/-- The argument at a position as a width or a number of copies. -/
def argumentCount? (args : List Outcome) (i : Nat) : Option Nat := do
  let n ← argumentNumber? args i
  some (min n.toNat maxCount)

section Arguments

variable (args : List Outcome) (i : Nat)

@[simp] theorem argument?_eq : argument? args i = some (argument args i) := by
  rw [argument?, argument, List.getD_eq_getElem?_getD]
  by_cases h : i < args.length
  · rw [if_pos h, List.getElem?_eq_getElem h, Option.getD_some]
  · rw [if_neg h, List.getElem?_eq_none (Nat.not_lt.1 h), Option.getD_none]

@[simp] theorem argumentText?_eq : argumentText? args i = some (argumentText args i) := by
  simp [argumentText?, argumentText]

@[simp] theorem argumentNumber?_eq : argumentNumber? args i = some (argumentNumber args i) := by
  simp [argumentNumber?, argumentNumber, readInteger?_eq]

@[simp] theorem argumentCount?_eq : argumentCount? args i = some (argumentCount args i) := by
  simp [argumentCount?, argumentCount]

/-- The arguments at the first positions, looked up one after another. -/
def arguments? (args : List Outcome) (n : Nat) : Option (List Outcome) :=
  (List.range n).mapM (argument? args)

theorem arguments?_eq (n : Nat) :
    arguments? args n = some ((List.range n).map (argument args)) := by
  have hread : argument? args = fun i => pure (argument args i) := by
    funext i
    exact argument?_eq args i
  rw [arguments?, hread, List.mapM_pure]
  rfl

theorem map_argument_range : (List.range args.length).map (argument args) = args := by
  refine List.ext_getElem (by simp) ?_
  intro i hi hi'
  simp [argument, List.getD_eq_getElem?_getD, hi']

theorem map_argument_range_pred :
    (List.range (args.length - 1)).map (argument args) = args.dropLast := by
  have htake := congrArg (List.take (args.length - 1)) (map_argument_range args)
  rw [← List.map_take, List.take_range, Nat.min_eq_left (Nat.sub_le _ _)] at htake
  rw [htake, List.dropLast_eq_take]

end Arguments

/-! ### Functions that choose

From here on a name with a question mark stands for what the name without it stands for, carried out
with operations that can fail. -/

namespace Control

/-- The second argument if the first is true, and otherwise the third. -/
def choose? (args : List Outcome) : Option Outcome := do
  let condition ← argument? args 0
  if condition.truthy then argument? args 1 else argument? args 2

/-- The first argument if it is true, and otherwise the second. -/
def orElse? (args : List Outcome) : Option Outcome := do
  let first ← argument? args 0
  if first.truthy then some first else argument? args 1

/-- The first argument that is true, and the last one if none before it is. -/
def firstOf? (args : List Outcome) : Option Outcome := do
  -- without any argument the last position is the first one, where there is none
  let last := args.length - 1
  let candidates ← arguments? args last
  match candidates.find? Outcome.truthy with
  | some candidate => some candidate
  | none => argument? args last

/-- The third argument if the first two pass a test, and otherwise the fourth. The test can fail. -/
def chooseBy? (test : List Outcome → Option Bool) (args : List Outcome) : Option Outcome := do
  let passed ← test args
  if passed then argument? args 2 else argument? args 3

/-- The first two arguments are the same number. -/
def equalNumbers? (args : List Outcome) : Option Bool := do
  let m ← argumentNumber? args 0
  let n ← argumentNumber? args 1
  some (m == n)

/-- The first argument is a greater number than the second. -/
def greaterNumber? (args : List Outcome) : Option Bool := do
  let m ← argumentNumber? args 0
  let n ← argumentNumber? args 1
  some (n < m)

/-- The first argument has more characters than the second argument says. -/
def longerThan? (args : List Outcome) : Option Bool := do
  let text ← argumentText? args 0
  let n ← argumentNumber? args 1
  some (n < Text.length text)

/-- The argument whose number the first argument gives. It is looked up without a default. -/
def select? (args : List Outcome) : Option Outcome := do
  let n ← argumentNumber? args 0
  -- the comparison says that the argument is there
  if 1 ≤ n ∧ n < args.length then args[n.toNat]? else some .neutral

/-- Whether all arguments are true, each of them looked up. -/
def conjunction? (args : List Outcome) : Option Outcome := do
  let all ← arguments? args args.length
  some (.ofBool (all.all Outcome.truthy))

/-- Whether some argument is true, each of them looked up. -/
def disjunction? (args : List Outcome) : Option Outcome := do
  let all ← arguments? args args.length
  some (.ofBool (all.any Outcome.truthy))

/-- Whether the argument is not true. -/
def negation? (args : List Outcome) : Option Outcome := do
  let arg ← argument? args 0
  some (.ofBool !arg.truthy)

variable (args : List Outcome)

theorem choose?_eq : choose? args = some (choose args) := by
  simp only [choose?, argument?_eq, Option.bind_eq_bind, Option.bind_some, choose]
  split <;> rfl

theorem orElse?_eq : orElse? args = some (orElse args) := by
  simp only [orElse?, argument?_eq, Option.bind_eq_bind, Option.bind_some, orElse]
  split <;> rfl

theorem chooseBy?_eq {test? : List Outcome → Option Bool} {test : List Outcome → Bool}
    (h : test? args = some (test args)) : chooseBy? test? args = some (chooseBy test args) := by
  simp only [chooseBy?, h, argument?_eq, Option.bind_eq_bind, Option.bind_some, chooseBy]
  split <;> rfl

theorem firstOf?_eq : firstOf? args = some (firstOf args) := by
  simp only [firstOf?, arguments?_eq, map_argument_range_pred, argument?_eq, Option.bind_eq_bind,
    Option.bind_some, firstOf]
  cases args.dropLast.find? Outcome.truthy with
  | some candidate => rfl
  | none =>
    rw [Option.getD_none, List.getLastD_eq_getLast?, List.getLast?_eq_getElem?, argument,
      List.getD_eq_getElem?_getD]

theorem select?_eq : select? args = some (select args) := by
  simp only [select?, argumentNumber?_eq, Option.bind_eq_bind, Option.bind_some, select]
  split
  · next h =>
    have hlt : (argumentNumber args 0).toNat < args.length := by omega
    rw [argument, List.getD_eq_getElem?_getD, List.getElem?_eq_getElem hlt, Option.getD_some]
  · rfl

end Control

/-! ### Functions on numbers -/

namespace Number

/-- An operation carried through all arguments, each of them read as a number. -/
def foldArguments? (op : Int → Int → Int) (args : List Outcome) : Option Outcome := do
  let numbers ← args.mapM fun arg => readInteger? arg.text
  some (.literal (writeInteger (foldNumbers op numbers)))

/-- The first number is greater than the second. -/
def greater? (args : List Outcome) : Option Outcome := do
  let m ← argumentNumber? args 0
  let n ← argumentNumber? args 1
  some (.ofBool (n < m))

/-- The first argument with zeros up to the width that the second one gives. -/
def padded? (args : List Outcome) : Option Outcome := do
  let n ← argumentNumber? args 0
  let width ← argumentCount? args 1
  some (.literal (writePadded width n))

/-- A number of milliseconds as a duration; negative numbers count as zero. -/
def duration? (args : List Outcome) : Option Outcome := do
  let n ← argumentNumber? args 0
  some (.literal (writeDuration (n.toNat / 1000)))

theorem foldArguments?_eq (op : Int → Int → Int) (args : List Outcome) :
    foldArguments? op args = some (foldArguments op args) := by
  have hread : (fun arg : Outcome => readInteger? arg.text)
      = fun arg => pure (readInteger arg.text) := by
    funext arg
    exact readInteger?_eq arg.text
  rw [foldArguments?, hread, List.mapM_pure]
  rfl

end Number

/-! ### Functions on text -/

namespace Textual

/-- The clusters of the argument at a position. -/
def argumentClusters? (args : List Outcome) (i : Nat) : Option (List (List Char)) := do
  let text ← argumentText? args i
  some (clusters text.toList)

/-- The byte position where a cluster begins, or the end of the text if there is no such cluster. -/
def clusterPosition (cs : List Char) (n : Nat) : Nat :=
  if n < (clusters cs).length then byteLength ((clusters cs).take n).flatten else byteLength cs

/-- The elements of a list two by two. One that is left is no pair. -/
def wholePairs : List Outcome → List (List Outcome)
  | first :: second :: rest => [first, second] :: wholePairs rest
  | _ => []

/-- The first characters of a text. -/
def left? (args : List Outcome) : Option Outcome := do
  let pieces ← argumentClusters? args 0
  let n ← argumentCount? args 1
  some (ofClusters (pieces.take n))

/-- The last characters of a text, which begin at a position within it. -/
def right? (args : List Outcome) : Option Outcome := do
  let pieces ← argumentClusters? args 0
  let n ← argumentCount? args 1
  -- this difference stops at zero, for a text shorter than the end asked for
  let shown ← behind? pieces (pieces.length - n)
  some (ofClusters shown)

/-- The characters from one position to another, counted from one. Neither difference of positions
stops at zero. -/
def middle? (args : List Outcome) : Option Outcome := do
  let n ← argumentCount? args 1
  let last ← argumentCount? args 2
  let first := max n 1
  if last < first then some .neutral
  else do
    let pieces ← argumentClusters? args 0
    let before ← sub? first 1
    let behindFirst ← sub? last first
    some (ofClusters ((pieces.drop before).take (behindFirst + 1)))

/-- The second text put into the first, which is parted at a byte position. -/
def insert? (args : List Outcome) : Option Outcome := do
  let text ← argumentText? args 0
  let put ← argumentText? args 1
  let n ← argumentCount? args 2
  let (before, behind) ← splitAt? text.toList (clusterPosition text.toList n)
  some (.literal (String.ofList (before ++ put.toList ++ behind)))

/-- A text followed by a character as often as its length falls short of a width. -/
def pad? (args : List Outcome) : Option Outcome := do
  let text ← argumentText? args 0
  let width ← argumentCount? args 1
  let fill ← argumentText? args 2
  some (.literal (text ++ String.ofList
    (List.replicate (width - Text.length text) (fill.toList.headD ' '))))

/-- Copies of a text, as many as were asked for and fit. -/
def copies? (args : List Outcome) : Option Outcome := do
  let text ← argumentText? args 0
  let n ← argumentCount? args 1
  some (.literal (String.join (List.replicate (min n (maxResultBytes / text.utf8ByteSize)) text)))

/-- A text with a pair replaced, both parts of which have to be there. -/
def replacePair? (text : List Char) (pair : List Outcome) : Option (List Char) := do
  let pattern ← pair[0]?
  let replacement ← pair[1]?
  some (replacePattern pattern.text.toList replacement.text.toList text)

/-- The arguments behind the first one, if there is a first one. -/
def otherArguments? (args : List Outcome) : Option (List Outcome) :=
  if 1 ≤ args.length then behind? args 1 else some []

/-- The first argument with the pairs behind it replaced in turn. -/
def replace? (args : List Outcome) : Option Outcome := do
  let text ← argumentText? args 0
  let others ← otherArguments? args
  let result ← (wholePairs others).foldlM replacePair? text.toList
  some (.literal (String.ofList result))

/-- As many tabs as the argument says, or one. -/
def tab? (args : List Outcome) : Option Outcome := do
  let n ← if args.isEmpty then some 1 else argumentCount? args 0
  some (.literal (String.ofList (List.replicate n '\t')))

/-- The character with the given code point, if there is one other than the null character. -/
def char? (args : List Outcome) : Option Outcome := do
  let n ← argumentNumber? args 0
  if 0 < n.toNat ∧ n.toNat.isValidChar then
    some (.literal (String.singleton (Char.ofNat n.toNat)))
  else some .neutral

variable (args : List Outcome)

@[simp] theorem argumentClusters?_eq (i : Nat) :
    argumentClusters? args i = some (argumentClusters args i) := by
  simp [argumentClusters?, argumentClusters]

theorem right?_eq : right? args = some (right args) := by
  simp [right?, right, behind?_eq]

/-- Neither subtraction is tried on positions in the wrong order. -/
theorem middle?_eq : middle? args = some (middle args) := by
  simp only [middle?, argumentCount?_eq, argumentClusters?_eq, Option.bind_eq_bind,
    Option.bind_some, middle]
  have hfirst : 1 ≤ max (argumentCount args 1) 1 := Nat.le_max_right _ 1
  split
  · rfl
  · next horder =>
    rw [sub?_eq hfirst, sub?_eq (Nat.not_lt.1 horder)]
    rfl

/-- Between clusters a text can be parted. -/
theorem splitAt?_clusterPosition (cs : List Char) (n : Nat) :
    splitAt? cs (clusterPosition cs n)
      = some (((clusters cs).take n).flatten, ((clusters cs).drop n).flatten) := by
  have hparts : ((clusters cs).take n).flatten ++ ((clusters cs).drop n).flatten = cs := by
    rw [← List.flatten_append, List.take_append_drop, flatten_clusters]
  have hposition : clusterPosition cs n = byteLength ((clusters cs).take n).flatten := by
    rw [clusterPosition]
    split
    · rfl
    · next hend => rw [List.take_of_length_le (Nat.not_lt.1 hend), flatten_clusters]
  have hsplit := splitAt?_append ((clusters cs).take n).flatten ((clusters cs).drop n).flatten
  rw [hparts] at hsplit
  rw [hposition, hsplit]

theorem insert?_eq : insert? args = some (insert args) := by
  simp [insert?, insert, splitAt?_clusterPosition, argumentClusters, ofClusters]

/-- Every pair has two parts. -/
theorem foldlM_replacePair? (others : List Outcome) (text : List Char) :
    (wholePairs others).foldlM replacePair? text = some (replacePairs others text) := by
  induction others using wholePairs.induct generalizing text with
  | case1 pattern replacement rest ih => exact ih _
  | case2 others h =>
    match others, h with
    | [], _ | [_], _ => rfl
    | pattern :: replacement :: rest, h => exact absurd rfl (h pattern replacement rest)

theorem otherArguments?_eq : otherArguments? args = some args.tail := by
  cases args with
  | nil => rfl
  | cons arg args =>
    have hone : 1 ≤ (arg :: args).length := Nat.le_add_left 1 args.length
    rw [otherArguments?, if_pos hone, behind?_eq hone]
    rfl

theorem replace?_eq : replace? args = some (replace args) := by
  simp [replace?, replace, otherArguments?_eq, foldlM_replacePair?]

theorem tab?_eq : tab? args = some (tab args) := by
  rw [tab?, tab]
  cases args.isEmpty with
  | true => rfl
  | false => simp

theorem char?_eq : char? args = some (char args) := by
  simp only [char?, argumentNumber?_eq, Option.bind_eq_bind, Option.bind_some, char]
  split <;> rfl

end Textual

/-! ### Functions on the record -/

/-- All values of a field, or the one whose position the second argument gives. -/
def Lookup.text? (ctx : Context) (args : List Outcome) : Option Outcome := do
  let name ← argumentText? args 0
  match (ctx.record name).toList with
  | [] => some .missing
  | vs =>
    if args.length ≤ 1 then some (.ofField (ctx.settings.valueSeparator.intercalate vs))
    else do
      let n ← argumentNumber? args 1
      some (((valueAt? vs n).map Outcome.ofField).getD .missing)

theorem Lookup.text?_eq (ctx : Context) (args : List Outcome) :
    Lookup.text? ctx args = some (Lookup.text ctx args) := by
  simp only [Lookup.text?, argumentText?_eq, argumentNumber?_eq, Option.bind_eq_bind,
    Option.bind_some, Lookup.text, values]
  cases (ctx.record (argumentText args 0)).toList with
  | nil => rfl
  | cons v vs => simp only [apply_ite some]

/-! ### All functions -/

/-- A function that looks at the texts of its first arguments and at nothing else. -/
def onArguments? (n : Nat) (run : List Outcome → Outcome) (args : List Outcome) :
    Option Outcome := do
  let read ← arguments? args n
  some (run read)

theorem onArguments?_eq {n : Nat} {run : List Outcome → Outcome} {args : List Outcome}
    (h : run ((List.range n).map (argument args)) = run args) :
    onArguments? n run args = some (run args) := by
  rw [onArguments?, arguments?_eq]
  exact congrArg some h

namespace Builtin

/-- What a built-in function computes with operations that fail outside of their range. -/
def run? (ctx : Context) : Builtin → List Outcome → Option Outcome
  | .choose => Control.choose?
  | .orElse => Control.orElse?
  | .firstOf => Control.firstOf?
  | .ifEqual => Control.chooseBy? Control.equalNumbers?
  | .ifGreater => Control.chooseBy? Control.greaterNumber?
  | .ifLonger => Control.chooseBy? Control.longerThan?
  | .select => Control.select?
  | .and => Control.conjunction?
  | .or => Control.disjunction?
  | .not => Control.negation?
  | .equal => onArguments? 2 Textual.equal
  | .equalFolded => onArguments? 2 Textual.equalFolded
  | .greater => Number.greater?
  | .longer => onArguments? 2 Textual.longer
  | .add => Number.foldArguments? fun m n => saturate (m + n)
  | .sub => Number.foldArguments? fun m n => saturate (m - n)
  | .mul => Number.foldArguments? fun m n => saturate (m * n)
  | .div => Number.foldArguments? Number.quotient
  | .mod => Number.foldArguments? Number.remainder
  | .min => Number.foldArguments? Min.min
  | .max => Number.foldArguments? Max.max
  | .padNumber => Number.padded?
  | .left => Textual.left?
  | .right => Textual.right?
  | .middle => Textual.middle?
  | .length => onArguments? 1 Textual.length
  | .upper => onArguments? 1 Textual.upper
  | .lower => onArguments? 1 Textual.lower
  | .capitalize => onArguments? 1 Textual.capitalize
  | .trim => onArguments? 1 Textual.trim
  | .pad => Textual.pad?
  | .replace => Textual.replace?
  | .insert => Textual.insert?
  | .copies => Textual.copies?
  | .initials => onArguments? 1 Textual.initials
  | .lineBreak => onArguments? 0 fun _ => Textual.lineBreak
  | .tab => Textual.tab?
  | .char => Textual.char?
  | .fieldText => Lookup.text? ctx
  | .fieldJoin => onArguments? 2 (Lookup.joined ctx)
  | .fieldCount => onArguments? 1 (Lookup.count ctx)
  | .duration => Number.duration?

/-- **No function leaves the range of an operation**, whatever its arguments are. -/
theorem run?_eq (ctx : Context) (b : Builtin) (args : List Outcome) :
    b.run? ctx args = some (b.run ctx args) := by
  cases b with
  | choose => exact Control.choose?_eq args
  | orElse => exact Control.orElse?_eq args
  | firstOf => exact Control.firstOf?_eq args
  | ifEqual =>
    exact Control.chooseBy?_eq args (by simp [Control.equalNumbers?, Control.equalNumbers])
  | ifGreater =>
    exact Control.chooseBy?_eq args (by simp [Control.greaterNumber?, Control.greaterNumber])
  | ifLonger => exact Control.chooseBy?_eq args (by simp [Control.longerThan?, Control.longerThan])
  | select => exact Control.select?_eq args
  | and =>
    simp [run?, run, Control.conjunction?, Control.conjunction, arguments?_eq, map_argument_range]
  | or =>
    simp [run?, run, Control.disjunction?, Control.disjunction, arguments?_eq, map_argument_range]
  | not => simp [run?, run, Control.negation?, Control.negation]
  | greater => simp [run?, run, Number.greater?, Number.greater]
  | add | sub | mul | div | mod | min | max => exact Number.foldArguments?_eq _ args
  | padNumber => simp [run?, run, Number.padded?, Number.padded]
  | left => simp [run?, run, Textual.left?, Textual.left]
  | right => exact Textual.right?_eq args
  | middle => exact Textual.middle?_eq args
  | pad => simp [run?, run, Textual.pad?, Textual.pad]
  | replace => exact Textual.replace?_eq args
  | insert => exact Textual.insert?_eq args
  | copies => simp [run?, run, Textual.copies?, Textual.copies]
  | tab => exact Textual.tab?_eq args
  | char => exact Textual.char?_eq args
  | fieldText => exact Lookup.text?_eq ctx args
  | duration => simp [run?, run, Number.duration?, Number.duration]
  | equal | equalFolded | longer | fieldJoin => exact onArguments?_eq rfl
  | length | upper | lower | capitalize | trim | initials | fieldCount => exact onArguments?_eq rfl
  | lineBreak => exact onArguments?_eq rfl

end Builtin

/-! ### Calls -/

/-- The outcome of a call of a built-in function with operations that fail outside of their
range. -/
def Builtin.call? (ctx : Context) (b : Builtin) (args : List Outcome) : Option Outcome := do
  let result ← b.run? ctx args
  let flagged := match b.strategy with
    | .eager => args.foldl Outcome.absorb result
    | .lazy => result
  flagged.truncate? maxResultBytes

/-- **No operation of a built-in function is driven out of its range.** With operations that fail
outside of their range, every function comes to the same outcome as before, for any number of
arguments with any texts and flags; so does every cut, and every call, whatever number of arguments
the function has been registered for. -/
theorem operations_within_range (ctx : Context) (b : Builtin) (args : List Outcome) :
    b.run? ctx args = some (b.run ctx args)
      ∧ (∀ (o : Outcome) (room : Nat), o.truncate? room = some (o.truncate room))
      ∧ ∀ arity : Arity,
        b.call? ctx args = some (Function.apply ⟨arity, .builtin b⟩ ctx args) := by
  refine ⟨b.run?_eq ctx args, Outcome.truncate?_eq, ?_⟩
  intro arity
  rw [Builtin.call?, b.run?_eq]
  exact Outcome.truncate?_eq _ _

end TitleScript
