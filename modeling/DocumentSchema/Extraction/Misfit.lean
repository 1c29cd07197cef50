import DocumentSchema.Extraction.Target
import DocumentSchema.Json.Value
import DocumentSchema.Text.Quoted
import DocumentSchema.Validation.Path

namespace DocumentSchema.Extraction

open Json (Value)
open Validation (Path Segment)

/-- A value as it is named in messages: scalars with their text, containers by their sort. -/
def describe : Value → String
  | .null => "null"
  | .bool b => s!"boolean `{b}`"
  | .number (.integer n _) => s!"integer `{n}`"
  | .number (.real d) => s!"floating point `{String.ofList d.text}`"
  | .string s => "string " ++ String.ofList (Text.quotedString s.toList)
  | .array _ => "sequence"
  | .object _ => "map"

inductive Mismatch where
  | wrongType (found : Value) (expected : Target)
  | outOfRange (value : Int) (expected : Target)
  | missingField (name : String)
  | tooShort (length : Nat) (record : String) (fields : Nat)
  | tooLong (length : Nat)

def Mismatch.message : Mismatch → String
  | .wrongType found expected =>
    s!"invalid type: {describe found}, expected {expected.description}"
  | .outOfRange n expected => s!"invalid value: integer `{n}`, expected {expected.description}"
  | .missingField name => s!"missing field `{name}`"
  | .tooShort length record fields =>
    let elements := if fields = 1 then "1 element" else s!"{fields} elements"
    s!"invalid length {length}, expected struct {record} with {elements}"
  | .tooLong length => s!"invalid length {length}, expected fewer elements in array"

/-- A mismatch and the place where it is. -/
structure Misfit where
  path : Path
  mismatch : Mismatch

def pathText (p : Path) : String :=
  let dot (first : Bool) : String := if first then "" else "."
  let segment (first : Bool) : Segment → String
    | .field name => dot first ++ name
    | .index i => s!"[{i}]"
  match p with
  | [] => "."
  | s :: rest => segment true s ++ String.join (rest.map (segment false))

namespace Misfit

def within (m : Misfit) (s : Segment) : Misfit := ⟨s :: m.path, m.mismatch⟩

def pathText (m : Misfit) : String := Extraction.pathText m.path

def message (m : Misfit) : String := s!"at JSON path {m.pathText} → {m.mismatch.message}"

end Misfit

end DocumentSchema.Extraction
