import TitleScript.Script.Character
import TitleScript.Script.Fault
import TitleScript.Text.Bytes

/-!
# The tokens of a script

What a stretch of source is can be told without knowing the constructs around it, except for
commas, parentheses and brackets, whose role depends on what is open. The scanner therefore makes
one pass that cuts the source into tokens, and leaves those characters as they are.

A construct that goes wrong is a token too. It holds the source that was read for it, which will
stand for itself.

Every token remembers enough to write its source again: `Token.spelling`. The spellings of the
tokens of a source, put together, are the source, which is why positions can be counted from them.

## Main definitions

* `Token`, `Token.spelling` — the tokens and the source they are written as
* `Token.read` — the token a source begins with
* `Token.scan` — the tokens of a source with their positions

## Main results

* `Token.spelling_read` — the first token and the rest make up the source
* `Token.spelling_scan` — all tokens make up the source
-/

namespace TitleScript

/-- A token of a script. -/
inductive Token
  /-- A character that stands for itself, or whose role depends on what is open. -/
  | plain (c : Char)
  /-- A character after a backslash. -/
  | escaped (c : Char)
  /-- Text between quotes, or one quote character written as two. -/
  | quoted (text : List Char)
  /-- A field between percent signs. -/
  | field (name : List Char)
  /-- A field between percent signs and angle brackets. -/
  | fieldList (name : List Char)
  /-- The beginning of a call, up to its parenthesis. -/
  | callStart (name : List Char)
  /-- An opening bracket. -/
  | groupStart
  /-- A closing bracket. -/
  | groupEnd
  /-- A construct that went wrong, with the source read for it. -/
  | faulty (cause : Fault.Cause) (source : List Char)
deriving DecidableEq, Repr

namespace Token

/-- The source a token is written as. -/
def spelling : Token → List Char
  | plain c => [c]
  | escaped c => ['\\', c]
  | quoted text => if text = ['"'] then ['"', '"'] else '"' :: text ++ ['"']
  | field name => '%' :: name ++ ['%']
  | fieldList name => '%' :: '<' :: name ++ ['>', '%']
  | callStart name => '$' :: name ++ ['(']
  | groupStart => ['[']
  | groupEnd => [']']
  | faulty _ source => source

/-- The part of a faulty source that the fault is about: all of it, or the quote that is not
closed. -/
def excerpt (cause : Fault.Cause) (source : List Char) : List Char :=
  if cause = .unterminatedQuote then ['"'] else source

/-! ### Reading one token

Each of these takes the source behind the character that announces the construct. -/

/-- The name inside the angle brackets, if the text stands between such. -/
def insideAngles? : List Char → Option (List Char)
  | '<' :: cs => if cs.getLast? = some '>' then some cs.dropLast else none
  | _ => none

/-- The token for the text between two percent signs. -/
def ofFieldText (text : List Char) : Token :=
  if text = [] then faulty .emptyField ['%', '%']
  else match insideAngles? text with
    | some name =>
      if isFieldName name then fieldList name
      else faulty .invalidFieldName ('%' :: text ++ ['%'])
    | none =>
      if isFieldName text then field text
      else faulty .invalidFieldName ('%' :: text ++ ['%'])

/-- Read a field behind its first percent sign. -/
def readField (cs : List Char) : Token × List Char :=
  match cs.dropWhile isFieldChar with
  | '%' :: rest => (ofFieldText (cs.takeWhile isFieldChar), rest)
  | rest => (faulty .unterminatedField ('%' :: cs.takeWhile isFieldChar), rest)

/-- Read the beginning of a call behind its dollar sign. -/
def readCallStart (cs : List Char) : Token × List Char :=
  if cs.takeWhile isNameChar = [] then (faulty .missingFunctionName ['$'], cs)
  else match cs.dropWhile isNameChar with
    | '(' :: rest => (callStart (cs.takeWhile isNameChar), rest)
    | rest => (faulty .expectedParenthesis ('$' :: cs.takeWhile isNameChar), rest)

/-- Read quoted text behind its first quote. -/
def readQuoted : List Char → Token × List Char
  | '"' :: rest => (quoted ['"'], rest)
  | cs =>
    match cs.dropWhile (· != '"') with
    | _ :: rest => (quoted (cs.takeWhile (· != '"')), rest)
    | [] => (faulty .unterminatedQuote ('"' :: cs), [])

/-- Read an escaped character behind its backslash. -/
def readEscaped : List Char → Token × List Char
  | c :: rest => (escaped c, rest)
  | [] => (faulty .danglingEscape ['\\'], [])

/-- The token a source begins with, and the source behind it. -/
def read (c : Char) (cs : List Char) : Token × List Char :=
  match c with
  | '%' => readField cs
  | '$' => readCallStart cs
  | '"' => readQuoted cs
  | '\\' => readEscaped cs
  | '[' => (groupStart, cs)
  | ']' => (groupEnd, cs)
  | c => (plain c, cs)

/-! ### A token and what follows it make up the source -/

theorem eq_of_insideAngles? {text name : List Char} (h : insideAngles? text = some name) :
    text = '<' :: name ++ ['>'] := by
  unfold insideAngles? at h
  split at h
  · next cs =>
    split at h
    · next hl =>
      obtain rfl := Option.some.inj h
      obtain ⟨name, rfl⟩ := List.getLast?_eq_some_iff.1 hl
      simp
    · cases h
  · cases h

theorem spelling_ofFieldText (text : List Char) :
    (ofFieldText text).spelling = '%' :: text ++ ['%'] := by
  unfold ofFieldText
  split
  · next h => simp [h, spelling]
  · split
    · next name h =>
      split
      · simp [spelling, eq_of_insideAngles? h]
      · rfl
    · split <;> rfl

theorem spelling_readField (cs : List Char) :
    (readField cs).1.spelling ++ (readField cs).2 = '%' :: cs := by
  have hcs := @List.takeWhile_append_dropWhile Char isFieldChar cs
  unfold readField
  split
  · next rest h =>
    rw [h] at hcs
    simp [spelling_ofFieldText, hcs]
  · simp [spelling, hcs]

theorem spelling_readCallStart (cs : List Char) :
    (readCallStart cs).1.spelling ++ (readCallStart cs).2 = '$' :: cs := by
  have hcs := @List.takeWhile_append_dropWhile Char isNameChar cs
  unfold readCallStart
  split
  · rfl
  · split
    · next rest h =>
      rw [h] at hcs
      simp [spelling, hcs]
    · simp [spelling, hcs]

theorem spelling_readQuoted (cs : List Char) :
    (readQuoted cs).1.spelling ++ (readQuoted cs).2 = '"' :: cs := by
  have hcs := @List.takeWhile_append_dropWhile Char (· != '"') cs
  unfold readQuoted
  split
  · rfl
  · split
    · next q rest h =>
      have hq : q = '"' := by
        have := List.head?_dropWhile_not (· != '"') cs
        rw [h] at this
        simpa using this
      have ht : cs.takeWhile (· != '"') ≠ ['"'] := by
        intro ht
        have := @List.all_takeWhile Char (· != '"') cs
        rw [ht] at this
        simp at this
      rw [h, hq] at hcs
      simp [spelling, ht, hcs]
    · simp [spelling]

theorem spelling_readEscaped (cs : List Char) :
    (readEscaped cs).1.spelling ++ (readEscaped cs).2 = '\\' :: cs := by
  cases cs <;> rfl

/-- The first token and the source behind it make up the source. -/
theorem spelling_read (c : Char) (cs : List Char) :
    (read c cs).1.spelling ++ (read c cs).2 = c :: cs := by
  unfold read
  split
  · exact spelling_readField cs
  · exact spelling_readCallStart cs
  · exact spelling_readQuoted cs
  · exact spelling_readEscaped cs
  · rfl
  · rfl
  · rfl

/-- No token is spelled without a character. -/
theorem spelling_read_ne_nil (c : Char) (cs : List Char) : (read c cs).1.spelling ≠ [] := by
  unfold read
  split
  · unfold readField
    split
    · simp [spelling_ofFieldText]
    · simp [spelling]
  · unfold readCallStart
    split
    · simp [spelling]
    · split <;> simp [spelling]
  · unfold readQuoted
    split
    · simp [spelling]
    · split
      · simp only [spelling]
        split <;> simp
      · simp [spelling]
  · unfold readEscaped
    split <;> simp [spelling]
  all_goals simp [spelling]

/-- The source behind a token is shorter. -/
theorem length_read_lt (c : Char) (cs : List Char) :
    (read c cs).2.length < (c :: cs).length := by
  have h := congrArg List.length (spelling_read c cs)
  have := List.length_pos_iff.2 (spelling_read_ne_nil c cs)
  rw [List.length_append] at h
  omega

/-! ### All tokens of a source -/

/-- The tokens of a source that begins at byte `position`, behind those of `done`, which are kept
last first. -/
def scanFrom (position : Nat) (done : List (Nat × Token)) : List Char → List (Nat × Token)
  | [] => done.reverse
  | c :: cs =>
    scanFrom (position + Text.byteLength (read c cs).1.spelling)
      ((position, (read c cs).1) :: done) (read c cs).2
termination_by cs => cs.length
decreasing_by exact length_read_lt c cs

/-- The tokens of a source with their byte positions. -/
def scan (cs : List Char) : List (Nat × Token) :=
  scanFrom 0 [] cs

/-- The tokens of a source put together are the source. -/
theorem spelling_scanFrom (position : Nat) (done : List (Nat × Token)) (cs : List Char) :
    (scanFrom position done cs).flatMap (·.2.spelling)
      = done.reverse.flatMap (·.2.spelling) ++ cs := by
  fun_induction scanFrom position done cs with
  | case1 position done => simp
  | case2 position done c cs ih => simp [ih, spelling_read]

/-- The tokens of a source put together are the source. -/
theorem spelling_scan (cs : List Char) : (scan cs).flatMap (·.2.spelling) = cs := by
  simp [scan, spelling_scanFrom]

end Token

end TitleScript
