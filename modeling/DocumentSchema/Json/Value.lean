import DocumentSchema.Json.Number

namespace DocumentSchema.Json

inductive Value where
  | null
  | bool (value : Bool)
  | number (value : Number)
  | string (value : String)
  | array (items : List Value)
  | object (members : List (String × Value))

/-- The kinds of JSON values, and beside them `integer`, which only a demand on a value names. -/
inductive Kind where
  | null
  | boolean
  | number
  | integer
  | string
  | array
  | object
  deriving DecidableEq

def Kind.name : Kind → String
  | .null => "null"
  | .boolean => "boolean"
  | .number => "number"
  | .integer => "integer"
  | .string => "string"
  | .array => "array"
  | .object => "object"

instance : ToString Kind := ⟨Kind.name⟩

namespace Value

def kind : Value → Kind
  | .null => .null
  | .bool _ => .boolean
  | .number _ => .number
  | .string _ => .string
  | .array _ => .array
  | .object _ => .object

def member? : Value → String → Option Value
  | .object members, key => members.lookup key
  | _, _ => none

def element? : Value → Nat → Option Value
  | .array items, index => items[index]?
  | _, _ => none

end Value

/-- Gives a key a value: in its old place if it has one, else at the end. -/
def setMember : List (String × Value) → String → Value → List (String × Value)
  | [], key, value => [(key, value)]
  | (k, v) :: rest, key, value =>
    if k = key then (key, value) :: rest else (k, v) :: setMember rest key value

end DocumentSchema.Json
