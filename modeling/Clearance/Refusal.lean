import Clearance.Token

/-! Why an expression or a list of credentials is refused, and how that is reported. -/
namespace Clearance

/-- What is wrong with the tokens of an expression. -/
inductive Fault
  | invalid
  | mixedOperators
  | missingOperator
  | unmatchedClosing
  | unclosed
  | unexpected (kind : Token.Kind)
deriving DecidableEq, Repr

def Fault.message : Fault → String
  | .invalid => "invalid expression"
  | .mixedOperators => "unexpected operator"
  | .missingOperator => "missing operator"
  | .unmatchedClosing => "unmatched closing parenthesis"
  | .unclosed => "mismatched parentheses"
  | .unexpected kind => "unexpected token: " ++ kind.name

/-- The class of a fault, as callers tell faults apart. -/
def Fault.name : Fault → String
  | .invalid => "ParserError"
  | .mixedOperators => "UnexpectedOperatorError"
  | .missingOperator => "MissingOperatorError"
  | .unmatchedClosing => "UnmatchedClosingParenthesisError"
  | .unclosed => "MismatchedParenthesesError"
  | .unexpected _ => "UnexpectedTokenError"

/-- What reading an expression or a list of credentials can fail with. -/
inductive Refusal
  | stray (c : Char) (position : Nat)
  | malformed (fault : Fault)
  | emptyLabel (index : Nat) (item : Text)
deriving DecidableEq, Repr

/-- A report to a caller. Reports can be worded and filled in by hand, so they hold more than
refusals do: a fault in other words, any number for a position. -/
inductive Report
  | general (wording : String)
  | stray (found : Text) (position : Int)
  | malformed (fault : Fault) (wording : Option String)
  | emptyLabel (index : Int) (item : Text)
deriving DecidableEq, Repr

namespace Report

def message : Report → String
  | general wording => wording
  | stray found position =>
    "unexpected character '" ++ String.ofList found ++ "' at position " ++ toString position
  | malformed fault wording => wording.getD fault.message
  | emptyLabel index _ => "empty authorization label at index " ++ toString index

def baseName : String := "AuthorizationExpressionError"

def name : Report → String
  | general _ => baseName
  | stray _ _ => "LexerError"
  | malformed fault _ => fault.name
  | emptyLabel _ _ => "LabelSetError"

/-- The wider classes a report belongs to, the narrowest first. -/
def ancestors : Report → List String
  | general _ => []
  | malformed .invalid _ => [baseName]
  | malformed _ _ => [Fault.invalid.name, baseName]
  | _ => [baseName]

end Report

namespace Refusal

def report : Refusal → Report
  | stray c position => .stray [c] position
  | malformed fault => .malformed fault none
  | emptyLabel index item => .emptyLabel index item

def message (r : Refusal) : String := r.report.message

def name (r : Refusal) : String := r.report.name

@[simp] theorem name_malformed (fault : Fault) : (malformed fault).name = fault.name := rfl

end Refusal

end Clearance
