import DocumentSchema.Blueprint.SyntaxFault
import DocumentSchema.Validation.Violation
import DocumentSchema.Blueprint.Clause
import DocumentSchema.Workspace.Fault

namespace DocumentSchema.Blueprint

open Validation (Violation)

inductive DeclarationKind where
  | type
  | field
  | root
  deriving DecidableEq

def DeclarationKind.name : DeclarationKind → String
  | .type => "type"
  | .field => "field"
  | .root => "root"

inductive DefaultFault where
  | notScalar
  | violation (violation : Violation)
  deriving DecidableEq

def DefaultFault.message : DefaultFault → String
  | .notScalar => "defaults are only supported on scalar fields"
  | .violation v => v.message

inductive ConstraintFault where
  | unknownKey (key : String)
  | notApplicable (key : String) (kind : ScalarKind)
  | givenTwice (key : String)
  | notNumber (key : String)
  | notLength (key : String)
  | notString (key : String)
  | badPattern (reason : String)
  | invertedBounds (minimum maximum : Json.Number)
  | invertedLengths (minimum maximum : Nat)
  deriving DecidableEq

def ConstraintFault.message : ConstraintFault → String
  | .unknownKey key => s!"unknown constraint `{key}`"
  | .notApplicable key kind => s!"`{key}` does not apply to {kind.keyword}"
  | .givenTwice key => s!"`{key}` given twice"
  | .notNumber key => s!"`{key}` expects a number"
  | .notLength key => s!"`{key}` expects a non-negative integer"
  | .notString key => s!"`{key}` expects a string"
  | .badPattern reason => s!"bad pattern: {reason}"
  | .invertedBounds minimum maximum => s!"min {minimum} exceeds max {maximum}"
  | .invertedLengths minimum maximum => s!"min_length {minimum} exceeds max_length {maximum}"

inductive Fault where
  | form (fault : SyntaxFault)
  | unresolved (name : String)
  | duplicate (kind : DeclarationKind) (name : String)
  | invalidDefault (field : String) (fault : DefaultFault)
  | invalidConstraint (fault : ConstraintFault)
  deriving DecidableEq

def Fault.message : Fault → String
  | .form f => s!"syntax error: {f.message}"
  | .unresolved name => s!"unresolved type reference `{name}`"
  | .duplicate kind name => s!"duplicate {kind.name} declaration `{name}`"
  | .invalidDefault field fault => s!"invalid default for field `{field}`: {fault.message}"
  | .invalidConstraint fault => s!"invalid constraint: {fault.message}"

/-- A blueprint that cannot be read, or one with a fault at some place. -/
inductive CompileError where
  | unreadable (origin : String) (fault : FileFault)
  | faulty (origin : String) (fault : Located Fault)
  deriving DecidableEq

def CompileError.message : CompileError → String
  | .unreadable origin fault => s!"cannot read blueprint '{origin}': {fault.message}"
  | .faulty origin fault => s!"{origin}:{fault.location}: {fault.value.message}"

end DocumentSchema.Blueprint
