import DocumentSchema.Schema
import DocumentSchema.Json.Printer
import DocumentSchema.Text.Quoted

namespace DocumentSchema

def FieldType.inline? : FieldType → Option Nat
  | .inline id => some id
  | .array item => item.inline?
  | .scalar _ | .named _ => none

namespace Constraints

def clauses (c : Constraints) : List (List Char) :=
  let clause {α : Type} (key : String) (text : α → List Char) (value : Option α) :=
    value.toList.map fun v ↦ key.toList ++ " = ".toList ++ text v
  clause "min" Json.Number.text c.minimum ++ clause "max" Json.Number.text c.maximum ++
    clause "min_length" (Nat.toDigits 10) c.minLength ++
    clause "max_length" (Nat.toDigits 10) c.maxLength ++
    clause "pattern" (fun p ↦ Text.quotedString p.source.toList) c.pattern

end Constraints

def Scalar.text (s : Scalar) : List Char :=
  match s.constraints.clauses with
  | [] => s.kind.keyword.toList
  | clauses => s.kind.keyword.toList ++ '(' :: [',', ' '].intercalate clauses ++ [')']

namespace Schema

def typeText (s : Schema) : FieldType → List Char
  | .scalar scalar => scalar.text
  | .named id | .inline id => (s.definition id).name.toList
  | .array item => s.typeText item ++ ['[', ']']

/-- A place with the places of the types written in place inside its type, in depth-first order.
These come after it in a compiled schema; others are passed over. -/
def outline (s : Schema) (id : Nat) : List Nat :=
  id :: ((s.definition id).fields.filterMap (·.type.inline?)).flatMap fun child ↦
    if id < child ∧ child < s.types.length then outline s child else []
termination_by s.types.length - id

def fullOutline (s : Schema) : List Nat :=
  ((List.range s.types.length).filter fun id ↦ !(s.definition id).anonymous).flatMap s.outline

end Schema

end DocumentSchema
