import DocumentSchema.Json.Printer
import DocumentSchema.Schema.Reachable

namespace DocumentSchema

open Json (Number Value)

namespace Constraints

def keywords (c : Constraints) : List (String × Value) :=
  let keyword {α : Type} (name : String) (value : α → Value) (constraint : Option α) :=
    constraint.toList.map fun a ↦ (name, value a)
  keyword "minimum" .number c.minimum ++ keyword "maximum" .number c.maximum ++
    keyword "minLength" (.number ∘ .ofNat) c.minLength ++
    keyword "maxLength" (.number ∘ .ofNat) c.maxLength ++
    keyword "pattern" (fun p ↦ .string p.source) c.pattern

end Constraints

namespace Schema

def reference (name : String) : String × Value := ("$ref", .string ("#/$defs/" ++ name))

def typeKeywords (s : Schema) (inline : Nat → List (String × Value)) :
    FieldType → List (String × Value)
  | .scalar scalar => ("type", .string scalar.kind.keyword) :: scalar.constraints.keywords
  | .named id => [reference (s.definition id).name]
  | .inline id => inline id
  | .array item => [("type", .string "array"), ("items", .object (typeKeywords s inline item))]

/-- The keywords for an object type. Types written in place come after the type around them; an
earlier one says nothing. -/
def objectKeywords (s : Schema) (id : Nat) : List (String × Value) :=
  let d := s.definition id
  let inline (child : Nat) : List (String × Value) :=
    if id < child ∧ child < s.types.length then objectKeywords s child else []
  let property (f : FieldDefinition) : String × Value :=
    (f.name, .object (s.typeKeywords inline f.type ++ f.default.toList.map ("default", ·)))
  let required := (d.fields.filter (·.required)).map fun f ↦ Value.string f.name
  [("type", .string "object"), ("properties", .object (d.fields.map property))] ++
    (if required.isEmpty then [] else [("required", .array required)]) ++
    (if d.closed then [("additionalProperties", .bool false)] else [])
termination_by s.types.length - id

def jsonSchema (s : Schema) (root : String) : Except UnknownRoot Value := do
  let id ← s.rootId root
  let declared := (s.reachable id).filter fun id ↦ !(s.definition id).anonymous
  return .object [
    ("$schema", .string "https://json-schema.org/draft/2020-12/schema"),
    ("title", .string root),
    reference (s.definition id).name,
    ("$defs", .object (declared.map fun id ↦ ((s.definition id).name, .object (s.objectKeywords id))))]

end Schema

end DocumentSchema
