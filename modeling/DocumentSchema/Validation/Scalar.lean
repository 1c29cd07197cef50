import DocumentSchema.Schema
import DocumentSchema.Validation.Violation

namespace DocumentSchema.Validation

open Json (Number Value)

def numberFailure? (c : Constraints) (n : Number) : Option BoundFailure :=
  let low := (c.minimum.filter fun m ↦ n.order m = .lt).map (BoundFailure.belowMinimum n)
  let high := (c.maximum.filter fun m ↦ n.order m = .gt).map (BoundFailure.aboveMaximum n)
  low.or high

def textFailure? (c : Constraints) (text : String) : Option BoundFailure :=
  let length := text.length
  let short := (c.minLength.filter (length < ·)).map (BoundFailure.tooShort length)
  let long := (c.maxLength.filter (· < length)).map (BoundFailure.tooLong length)
  let unmatched := (c.pattern.filter (!·.isFoundIn text)).map fun p ↦ .noMatch text p.source
  (short.or long).or unmatched

/-- Is the value of a scalar kind? A number without fractional part is an integer, however it is
written. -/
def isOfKind (kind : Blueprint.ScalarKind) (v : Value) : Bool :=
  match kind, v with
  | .boolean, .bool _ | .number, .number _ | .string, .string _ => true
  | .integer, .number n => n.isIntegral
  | _, _ => false

def scalarViolation? (s : Scalar) (v : Value) : Option Violation :=
  if !isOfKind s.kind v then some (.typeMismatch s.kind.toKind v.kind) else
    let failure := match v with
      | .number n => numberFailure? s.constraints n
      | .string text => textFailure? s.constraints text
      | _ => none
    failure.map fun f ↦ .constraint f.message

end DocumentSchema.Validation
