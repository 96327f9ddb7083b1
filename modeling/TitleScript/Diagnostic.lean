import TitleScript.Lint

/-!
# Diagnostics

A diagnostic is what a report shows about a fault or a warning: a message, the stretch of source
it is about, and advice where there is some.

## Main definitions

* `Span` — a stretch of source
* `Diagnostic` — a diagnostic
* `Diagnostic.ofFault`, `Diagnostic.ofWarning` — the diagnostics of faults and warnings
-/

namespace TitleScript

/-- A stretch of source in bytes. -/
structure Span where
  offset : Nat
  length : Nat
deriving DecidableEq, Repr

/-- The stretch of at least one byte that begins at a position, kept within the source. -/
def Span.within (source : String) (position length : Nat) : Span where
  offset := min position source.utf8ByteSize
  length := min (max length 1) (source.utf8ByteSize - min position source.utf8ByteSize)

/-- What a report shows about a fault or a warning. -/
structure Diagnostic where
  message : String
  /-- Identifies the kind of diagnostic. -/
  code : String
  isWarning : Bool
  advice : Option String
  span : Span
  /-- Stands at the marked stretch of source. -/
  label : String
deriving DecidableEq, Repr

/-- How the text that was meant can be written. -/
def Fault.Cause.advice : Fault.Cause → Option String
  | .unterminatedField | .emptyField => some "write '\\%' for a literal percent sign"
  | .missingFunctionName | .expectedParenthesis => some "write '\\$' for a literal dollar sign"
  | .unterminatedGroup | .unexpectedBracket =>
    some "write '\\[' or '\\]' for literal brackets"
  | .unterminatedQuote => some "write '\"\"' for a literal quote"
  | .invalidFieldName =>
    some "list fields are written '%<name>%' with nothing outside the brackets"
  | .unterminatedCall | .danglingEscape | .tooDeep => none

/-- What follows from the construct, where that is not plain. -/
def Warning.advice : Warning → Option String
  | .alwaysShown _ => some "a group without fields or functions is always shown"
  | .argumentCount .. => some "the call evaluates to nothing until the count matches"
  | _ => none

namespace Diagnostic

/-- The diagnostic of a fault marks the source that the fault is about. -/
def ofFault (source : String) (f : Fault) : Diagnostic where
  message := "syntax error: " ++ f.cause.message
  code := "titlefmt::syntax"
  isWarning := false
  advice := f.cause.advice
  span := .within source f.position f.excerpt.utf8ByteSize
  label := "error here"

/-- The diagnostic of a warning marks the beginning of the construct. -/
def ofWarning (source : String) (w : Warning) : Diagnostic where
  message := w.message
  code := "titlefmt::lint"
  isWarning := true
  advice := w.advice
  span := .within source w.position 1
  label := "here"

end Diagnostic

end TitleScript
