import TitleScript.Json.Quoted
import TitleScript.Track

/-!
# Tracks as JSON documents

A track is read from a JSON object whose values are strings or arrays of strings; any other
document is refused. No document of that form is nested deeper, so it is read by an automaton over
its tokens.

## Main definitions

* `Document.tokens?` — the tokens of a document
* `Document.State`, `Document.step` — the automaton
* `Track.ofJson?` — the track that a text describes
-/

namespace TitleScript

namespace Document

/-- The tokens of a document that describes a track. -/
inductive Token
  | openBrace
  | closeBrace
  | openBracket
  | closeBracket
  | colon
  | comma
  | string (s : String)
deriving DecidableEq, Repr

/-- Whether the character may stand between tokens. -/
def isSpace (c : Char) : Bool :=
  c == ' ' || c == '\n' || c == '\t' || c == '\r'

/-- The token of a punctuation character. -/
def punctuation? : Char → Option Token
  | '[' => some .openBracket
  | ']' => some .closeBracket
  | ':' => some .colon
  | ',' => some .comma
  | c =>
    if c.toNat = 0x7B then some .openBrace
    else if c.toNat = 0x7D then some .closeBrace
    else none

/-- The tokens of a document behind those of `done`, which are kept last first. -/
def tokensFrom (done : List Token) : List Char → Option (List Token)
  | [] => some done.reverse
  | '"' :: cs =>
    match _h : Json.unquote? cs with
    | some (text, rest) => tokensFrom (.string (String.ofList text) :: done) rest
    | none => none
  | c :: cs =>
    if isSpace c then tokensFrom done cs
    else match punctuation? c with
      | some t => tokensFrom (t :: done) cs
      | none => none
termination_by cs => cs.length
decreasing_by
  · exact Nat.lt_succ_of_le (Json.length_unquote?_le (by assumption))
  all_goals simp

/-- The tokens of a document. -/
def tokens? (cs : List Char) : Option (List Token) :=
  tokensFrom [] cs

/-! ### The automaton -/

/-- Where in a document the automaton is. Fields are collected last first, and so are the values
of an array. -/
inductive State
  | start
  /-- Behind the opening brace. -/
  | first
  /-- Behind a comma between fields. -/
  | field (fields : List (String × List String))
  /-- Behind the name of a field. -/
  | name (fields : List (String × List String)) (name : String)
  /-- Behind the colon of a field. -/
  | value (fields : List (String × List String)) (name : String)
  /-- Behind the opening bracket of an array. -/
  | firstElement (fields : List (String × List String)) (name : String)
  /-- Behind a comma between elements. -/
  | element (fields : List (String × List String)) (name : String) (values : List String)
  /-- Behind an element. -/
  | afterElement (fields : List (String × List String)) (name : String) (values : List String)
  /-- Behind the value of a field. -/
  | afterValue (fields : List (String × List String))
  /-- Behind the closing brace. -/
  | finished (fields : List (String × List String))

/-- The effect of a token, if the document may go on with it. -/
def step : State → Token → Option State
  | .start, .openBrace => some .first
  | .first, .closeBrace => some (.finished [])
  | .first, .string name => some (.name [] name)
  | .field fields, .string name => some (.name fields name)
  | .name fields name, .colon => some (.value fields name)
  | .value fields name, .string v => some (.afterValue ((name, [v]) :: fields))
  | .value fields name, .openBracket => some (.firstElement fields name)
  | .firstElement fields name, .closeBracket => some (.afterValue ((name, []) :: fields))
  | .firstElement fields name, .string v => some (.afterElement fields name [v])
  | .element fields name values, .string v => some (.afterElement fields name (v :: values))
  | .afterElement fields name values, .comma => some (.element fields name values)
  | .afterElement fields name values, .closeBracket =>
    some (.afterValue ((name, values.reverse) :: fields))
  | .afterValue fields, .comma => some (.field fields)
  | .afterValue fields, .closeBrace => some (.finished fields)
  | _, _ => none

/-- The fields of a complete document, in source order. -/
def State.fields? : State → Option (List (String × List String))
  | .finished fields => some fields.reverse
  | _ => none

/-- The fields that the tokens describe. -/
def fields? (tokens : List Token) : Option (List (String × List String)) := do
  (← tokens.foldlM step .start).fields?

end Document

/-- The track that a text describes, if it is a document of that kind. -/
def Track.ofJson? (text : String) : Option Track := do
  return .ofEntries (← Document.fields? (← Document.tokens? text.toList))

end TitleScript
