import DocumentSchema.Blueprint.Clause
import DocumentSchema.Pattern

namespace DocumentSchema

open Blueprint (ScalarKind)
open Json (Number Value)

/-- What is asked of a scalar beyond its kind. -/
structure Constraints where
  minimum : Option Number
  maximum : Option Number
  minLength : Option Nat
  maxLength : Option Nat
  pattern : Option Pattern

def Constraints.none : Constraints := ⟨.none, .none, .none, .none, .none⟩

structure Scalar where
  kind : ScalarKind
  constraints : Constraints

inductive FieldType where
  | scalar (scalar : Scalar)
  | named (id : Nat)
  | inline (id : Nat)
  | array (item : FieldType)

structure FieldDefinition where
  name : String
  type : FieldType
  required : Bool
  default : Option Value

structure TypeDefinition where
  name : String
  fields : List FieldDefinition
  closed : Bool
  anonymous : Bool

namespace TypeDefinition

def empty : TypeDefinition := ⟨"", [], true, true⟩

def field? (d : TypeDefinition) (name : String) : Option FieldDefinition :=
  d.fields.find? (·.name = name)

end TypeDefinition

structure Schema where
  origin : String
  types : List TypeDefinition
  roots : List (String × Nat)

/-- The name of a root that a schema does not have. -/
structure UnknownRoot where
  name : String
  origin : String
  declared : List String
  deriving DecidableEq

def UnknownRoot.message (u : UnknownRoot) : String :=
  let declared := ", ".intercalate u.declared
  s!"`{u.name}` is not a declared root of blueprint '{u.origin}' (declared roots: {declared})"

namespace Schema

/-- The type in a place. Places beyond the list hold the type without fields. -/
def definition (s : Schema) (id : Nat) : TypeDefinition := s.types[id]?.getD .empty

def rootNames (s : Schema) : List String := s.roots.map (·.1)

def isRoot (s : Schema) (name : String) : Bool := s.rootNames.contains name

def typeNames (s : Schema) : List String := (s.types.filter (!·.anonymous)).map (·.name)

def typeCount (s : Schema) : Nat := s.types.length

def idOf? (s : Schema) (name : String) : Option Nat :=
  s.types.findIdx? fun d ↦ !d.anonymous && d.name = name

def rootId (s : Schema) (name : String) : Except UnknownRoot Nat :=
  match s.roots.lookup name with
  | some id => .ok id
  | none => .error ⟨name, s.origin, s.rootNames⟩

end Schema

end DocumentSchema
