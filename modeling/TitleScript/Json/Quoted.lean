/-!
# String literals of JSON

A string is written between quotes. Quotes, backslashes and control characters are escaped and
nothing else is. On reading, any character may also be escaped by its number in UTF-16 units; a
unit that is half of a pair has to be followed by the other half.

## Main definitions

* `Json.quote` — a text as a string literal
* `Json.unquote?` — the text that a literal stands for, and what follows the literal
-/

namespace TitleScript

namespace Json

/-! ### Writing -/

/-- Four hexadecimal digits of a code point below 256, after the letter that announces them. -/
def unicodeEscape (c : Char) : List Char :=
  ['\\', 'u', '0', '0', Nat.digitChar (c.toNat / 16), Nat.digitChar (c.toNat % 16)]

/-- A character as it stands in a string literal. -/
def escapeChar (c : Char) : List Char :=
  if c == '"' then ['\\', '"']
  else if c == '\\' then ['\\', '\\']
  else if c == '\n' then ['\\', 'n']
  else if c == '\r' then ['\\', 'r']
  else if c == '\t' then ['\\', 't']
  else if c.toNat == 8 then ['\\', 'b']
  else if c.toNat == 12 then ['\\', 'f']
  else if c < ' ' then unicodeEscape c
  else [c]

/-- A text as a string literal. -/
def quote (s : String) : String :=
  String.ofList ('"' :: s.toList.flatMap escapeChar ++ ['"'])

/-! ### Reading -/

/-- The value of a hexadecimal digit. -/
def hexValue? (c : Char) : Option Nat :=
  if '0' ≤ c ∧ c ≤ '9' then some (c.toNat - '0'.toNat)
  else if 'a' ≤ c ∧ c ≤ 'f' then some (c.toNat - 'a'.toNat + 10)
  else if 'A' ≤ c ∧ c ≤ 'F' then some (c.toNat - 'A'.toNat + 10)
  else none

/-- The UTF-16 unit that four hexadecimal digits give. -/
def unit? (a b c d : Char) : Option Nat := do
  return (((← hexValue? a) * 16 + (← hexValue? b)) * 16 + (← hexValue? c)) * 16 + (← hexValue? d)

/-- Whether a unit is the first half of a pair. -/
def isLeading (u : Nat) : Bool := 0xD800 ≤ u && u < 0xDC00

/-- Whether a unit is the second half of a pair. -/
def isTrailing (u : Nat) : Bool := 0xDC00 ≤ u && u < 0xE000

/-- The character that a backslash and one letter stand for. -/
def shortEscape? : Char → Option Char
  | '"' => some '"'
  | '\\' => some '\\'
  | '/' => some '/'
  | 'b' => some (Char.ofNat 8)
  | 'f' => some (Char.ofNat 12)
  | 'n' => some '\n'
  | 'r' => some '\r'
  | 't' => some '\t'
  | _ => none

/-- Read a literal behind its first quote. The text so far is kept last character first, and
`leading` is the first half of a pair whose second half has to come next. -/
def unquoteFrom : (leading : Option Nat) → (done cs : List Char) →
    Option (List Char × List Char)
  | none, done, '"' :: rest => some (done.reverse, rest)
  | leading, done, '\\' :: 'u' :: a :: b :: c :: d :: rest =>
    match unit? a b c d, leading with
    | some u, some high =>
      if isTrailing u then
        unquoteFrom none
          (Char.ofNat (0x10000 + (high - 0xD800) * 0x400 + (u - 0xDC00)) :: done) rest
      else none
    | some u, none =>
      if isTrailing u then none
      else if isLeading u then unquoteFrom (some u) done rest
      else unquoteFrom none (Char.ofNat u :: done) rest
    | none, _ => none
  | none, done, '\\' :: c :: rest =>
    match shortEscape? c with
    | some e => unquoteFrom none (e :: done) rest
    | none => none
  | none, done, c :: rest => if c < ' ' then none else unquoteFrom none (c :: done) rest
  | _, _, _ => none

/-- The text that a literal stands for, given the source behind its first quote, and the source
behind its last one. -/
def unquote? (cs : List Char) : Option (List Char × List Char) :=
  unquoteFrom none [] cs

theorem length_unquoteFrom_le {leading : Option Nat} {done cs text rest : List Char}
    (h : unquoteFrom leading done cs = some (text, rest)) : rest.length ≤ cs.length := by
  fun_induction unquoteFrom leading done cs <;> simp_all <;> omega

theorem length_unquote?_le {cs text rest : List Char} (h : unquote? cs = some (text, rest)) :
    rest.length ≤ cs.length :=
  length_unquoteFrom_le h

-- A pair of units is one character; half of one is none.
example : unquote? "\\u00e9\\ud83d\\uDE00/\\/\"x".toList = some ("é😀//".toList, ['x'])
    ∧ unquote? "\\ud83d\"".toList = none ∧ unquote? "\\ude00\"".toList = none := by
  decide +kernel

end Json

end TitleScript
