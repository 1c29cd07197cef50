import DocumentSchema.Json.Value

namespace DocumentSchema.Json

inductive Shape where
  | object
  | array
  | scalar
  deriving DecidableEq

def Shape.name : Shape → String
  | .object => "object"
  | .array => "array"
  | .scalar => "scalar"

namespace Value

def shape : Value → Shape
  | .object _ => .object
  | .array _ => .array
  | _ => .scalar

def members : Value → List (String × Value)
  | .object members => members
  | _ => []

def elements : Value → List Value
  | .array items => items
  | _ => []

def size : Value → Nat
  | .object members => members.length
  | .array items => items.length
  | _ => 0

/-- The member under a key, or else null. -/
def member (v : Value) (key : String) : Value := (v.member? key).getD .null

/-- The element at an index, or else null. -/
def element (v : Value) (index : Nat) : Value := (v.element? index).getD .null

def hasMember (v : Value) (key : String) : Bool := (v.member? key).isSome

def number? : Value → Option Number
  | .number n => some n
  | _ => none

def toDouble? (v : Value) : Option Double := v.number?.map Number.toDouble

/-- An exactly kept whole number within 64 signed bits. -/
def toSigned? (v : Value) : Option Int := v.number?.bind Number.toSigned?

def string? : Value → Option String
  | .string s => some s
  | _ => none

def bool? : Value → Option Bool
  | .bool b => some b
  | _ => none

def isNull : Value → Bool
  | .null => true
  | _ => false

end Value

end DocumentSchema.Json
