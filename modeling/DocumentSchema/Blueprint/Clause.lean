import DocumentSchema.Blueprint.Location
import DocumentSchema.Json.Value

namespace DocumentSchema.Blueprint

inductive ScalarKind where
  | number
  | integer
  | string
  | boolean
  deriving DecidableEq

namespace ScalarKind

def keyword : ScalarKind → String
  | number => "number"
  | integer => "integer"
  | string => "string"
  | boolean => "boolean"

/-- The kind that a word names; `bool` is a second name of `boolean`. -/
def ofWord? : String → Option ScalarKind
  | "number" => some number
  | "integer" => some integer
  | "string" => some string
  | "boolean" | "bool" => some boolean
  | _ => none

def toKind : ScalarKind → Json.Kind
  | number => .number
  | integer => .integer
  | string => .string
  | boolean => .boolean

end ScalarKind

/-- Whether an object admits members that its type does not declare. -/
inductive Openness where
  | open
  | closed
  deriving DecidableEq

def Openness.ofWord? : String → Option Openness
  | "open" => some .open
  | "closed" => some .closed
  | _ => none

inductive Literal where
  | null
  | bool (value : Bool)
  | number (value : Json.Number)
  | string (content : String)
  deriving DecidableEq

def Literal.toValue : Literal → Json.Value
  | .null => .null
  | .bool b => .bool b
  | .number n => .number n
  | .string s => .string s

structure ConstraintClause where
  key : Located String
  literal : Located Literal
  deriving DecidableEq

/-- A field with a type of some form. -/
structure FieldClause (τ : Type) where
  name : Located String
  isOptional : Bool
  type : τ
  default : Option (Located Literal)

inductive TypeClause where
  | scalar (kind : ScalarKind) (constraints : List ConstraintClause)
  | named (name : Located String)
  | inline (openness : Option Openness) (fields : List (FieldClause TypeClause))
  | array (item : TypeClause)

abbrev Field := FieldClause TypeClause

structure TypeDeclaration where
  name : Located String
  isRoot : Bool
  openness : Option Openness
  fields : List Field

inductive Item where
  | type (declaration : TypeDeclaration)
  | root (name : Located String)

end DocumentSchema.Blueprint
