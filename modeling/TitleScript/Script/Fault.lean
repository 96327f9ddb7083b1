/-!
# Faults in a script

Reading a script never fails. A construct that is not well formed is taken as literally as it can
be, and a fault records its cause, where it begins and the source it is about.

## Main definitions

* `Fault` — a fault
* `Fault.Cause` — what is wrong
* `Fault.Cause.message`, `Fault.Cause.label` — the cause in words and as an identifier
-/

namespace TitleScript

namespace Fault

/-- What is wrong with a construct. -/
inductive Cause
  | unterminatedField
  | emptyField
  | invalidFieldName
  | missingFunctionName
  | expectedParenthesis
  | unterminatedCall
  | unterminatedGroup
  | unterminatedQuote
  | unexpectedBracket
  | danglingEscape
  | tooDeep
deriving DecidableEq, Repr

namespace Cause

/-- The cause in words. -/
def message : Cause → String
  | unterminatedField => "unterminated variable, expected closing '%'"
  | emptyField => "empty variable name"
  | invalidFieldName => "invalid variable name"
  | missingFunctionName => "expected function name after '$'"
  | expectedParenthesis => "expected '(' after function name"
  | unterminatedCall => "unterminated function call, expected ')'"
  | unterminatedGroup => "unterminated conditional, expected ']'"
  | unterminatedQuote => "unterminated quote, expected closing '\"'"
  | unexpectedBracket => "unexpected ']' without matching '['"
  | danglingEscape => "escape character at end of input"
  | tooDeep => "nesting too deep"

/-- The cause as an identifier. -/
def label : Cause → String
  | unterminatedField => "unterminated_variable"
  | emptyField => "empty_variable"
  | invalidFieldName => "invalid_variable_name"
  | missingFunctionName => "missing_function_name"
  | expectedParenthesis => "expected_open_paren"
  | unterminatedCall => "unterminated_function"
  | unterminatedGroup => "unterminated_conditional"
  | unterminatedQuote => "unterminated_quote"
  | unexpectedBracket => "unexpected_bracket"
  | danglingEscape => "dangling_escape"
  | tooDeep => "nesting_too_deep"

end Cause

end Fault

/-- A fault: its cause, the byte position where it begins, and the source it is about. -/
structure Fault where
  position : Nat
  excerpt : String
  cause : Fault.Cause
deriving DecidableEq, Repr

namespace Fault

/-- The fault as one line of text. -/
def describe (f : Fault) : String :=
  f.cause.message ++ " at position " ++ toString f.position ++ ": '" ++ f.excerpt ++ "'"

end Fault

end TitleScript
