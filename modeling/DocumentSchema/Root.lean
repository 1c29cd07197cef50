import DocumentSchema.Json.Reader
import DocumentSchema.Validation.Findings
import DocumentSchema.Validation.Normalization

namespace DocumentSchema

open Validation
open Json (Value)

/-- A root of a schema. -/
structure Root where
  schema : Schema
  name : String
  id : Nat

def Schema.root (s : Schema) (name : String) : Except UnknownRoot Root :=
  (s.rootId name).map fun id ↦ ⟨s, name, id⟩

/-- The value that a text holds. A text that is none is at fault as a whole. -/
def parseDocument (text : List UInt8) : Except Finding Value :=
  (Json.read text).mapError fun m ↦ ⟨[], .malformedInput m.message⟩

namespace Root

def walk (r : Root) (mode : Mode) (v : Value) : Option Value × Trail :=
  normalize r.schema mode v (.named r.id) .start

theorem walk_findings_ne_nil {r : Root} {mode : Mode} {v : Value} (h : (r.walk mode v).1 = none) :
    (r.walk mode v).2.findings ≠ [] := by
  have disciplined : Walk.Disciplined mode _ := normalize_disciplined r.schema v (.named r.id)
  obtain ⟨found, after, -, none_iff, -⟩ := disciplined .start
  rw [walk, after]
  simpa [Trail.start] using none_iff.1 h

def run (r : Root) (mode : Mode) (v : Value) : Except Findings Value :=
  match h : (r.walk mode v).1 with
  | some normal => .ok normal
  | none => .error ⟨(r.walk mode v).2.findings, walk_findings_ne_nil h⟩

def validate (r : Root) (v : Value) : Except Finding Value := (r.run .failFast v).mapError (·.first)

def validateAll (r : Root) (v : Value) : Except Findings Value := r.run .collect v

def validateText (r : Root) (text : List UInt8) : Except Finding Value :=
  (parseDocument text).bind r.validate

def validateTextAll (r : Root) (text : List UInt8) : Except Findings Value :=
  ((parseDocument text).mapError .single).bind r.validateAll

def accepts (r : Root) (text : List UInt8) : Bool := (r.validateText text).isOk

end Root

end DocumentSchema
