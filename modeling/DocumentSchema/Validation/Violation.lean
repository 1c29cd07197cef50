import DocumentSchema.Json.Value
import DocumentSchema.Text.Quoted
import DocumentSchema.Validation.Path

namespace DocumentSchema.Validation

open Json

/-- A scalar of the right kind that is outside its bounds. -/
inductive BoundFailure where
  | belowMinimum (value minimum : Number)
  | aboveMaximum (value maximum : Number)
  | tooShort (length minimum : Nat)
  | tooLong (length maximum : Nat)
  | noMatch (text pattern : String)
  deriving DecidableEq

def BoundFailure.message : BoundFailure → String
  | .belowMinimum n minimum => s!"{n} is less than the minimum {minimum}"
  | .aboveMaximum n maximum => s!"{n} is greater than the maximum {maximum}"
  | .tooShort length minimum => s!"length {length} is shorter than the minimum {minimum}"
  | .tooLong length maximum => s!"length {length} is longer than the maximum {maximum}"
  | .noMatch text pattern =>
    String.ofList (Text.quotedString text.toList) ++ " does not match pattern " ++
      String.ofList (Text.quotedString pattern.toList)

inductive Violation where
  | malformedInput (reason : String)
  | missingField
  | typeMismatch (expected actual : Kind)
  | unknownField
  | constraint (reason : String)
  deriving DecidableEq

namespace Violation

def message : Violation → String
  | malformedInput reason => s!"malformed JSON input: {reason}"
  | missingField => "missing required field"
  | typeMismatch expected actual => s!"expected {expected}, found {actual}"
  | unknownField => "unknown field"
  | constraint reason => reason

def className : Violation → String
  | malformedInput _ => "malformed-input"
  | missingField => "missing-required-field"
  | typeMismatch _ _ => "type-mismatch"
  | unknownField => "unknown-field"
  | constraint _ => "constraint-violation"

end Violation

structure Finding where
  path : Path
  violation : Violation
  deriving DecidableEq

def Finding.message (f : Finding) : String := s!"{f.path.display}: {f.violation.message}"

end DocumentSchema.Validation
