import DocumentSchema.Extraction.Misfit
import DocumentSchema.Root

namespace DocumentSchema.Extraction

open Json (Number Value)
open Validation (Finding Segment)

abbrev Extracted (α : Type) := Except Misfit α

abbrev Reading := Target → Extracted Value

def mismatch {α : Type} (m : Mismatch) : Extracted α := .error ⟨[], m⟩

def within {α : Type} (s : Segment) (result : Extracted α) : Extracted α :=
  result.mapError (·.within s)

/-- Whole numbers become binary64 ones on demand, binary64 ones never whole ones. -/
def readNumber (n : Number) (target : Target) : Extracted Value :=
  match target, n with
  | .double, _ => .ok (.number (.real n.toDouble))
  | _, .integer i _ =>
    match target.admits? i with
    | some true => .ok (.number n)
    | some false => mismatch (.outOfRange i target)
    | none => mismatch (.wrongType (.number n) target)
  | _, .real _ => mismatch (.wrongType (.number n) target)

def readList (item : Target) (items : List Reading) : Extracted Value :=
  .array <$> (items.zipIdx.mapM fun (read, i) ↦ within (.index i) (read item))

def readMap (value : Target) (members : List (String × Reading)) : Extracted Value := do
  let read ← members.mapM fun (key, read) ↦ do return (key, ← within (.field key) (read value))
  return .object (read.mergeSort fun a b ↦ a.1 ≤ b.1)

/-- The fields of a record among the members of an object, which are read in their own order. -/
def readRecord (fields : List (String × Target)) (members : List (String × Reading)) :
    Extracted Value := do
  let read ← members.mapM fun (key, read) ↦
    match fields.lookup key with
    | none => .ok none
    | some target => do return some (key, ← within (.field key) (read target))
  let read := read.filterMap id
  .object <$> fields.mapM fun (name, target) ↦
    match read.lookup name with
    | some v => .ok (name, v)
    | none => if target.isOptional then .ok (name, .null) else mismatch (.missingField name)

def readRow (name : String) (fields : List (String × Target)) (items : List Reading) :
    Extracted Value := do
  let read ← (fields.zip items).zipIdx.mapM fun (((field, target), read), i) ↦ do
    return (field, ← within (.index i) (read target))
  if items.length < fields.length then mismatch (.tooShort items.length name fields.length)
  else if fields.length < items.length then mismatch (.tooLong items.length)
  else .ok (.object read)

mutual

def extract : Value → Reading
  | .null, target => if target.isOptional then .ok .null else mismatch (.wrongType .null target)
  | .bool b, target =>
    match target.required with
    | .boolean => .ok (.bool b)
    | target => mismatch (.wrongType (.bool b) target)
  | .number n, target => readNumber n target.required
  | .string s, target =>
    match target.required with
    | .string => .ok (.string s)
    | target => mismatch (.wrongType (.string s) target)
  | .array items, target =>
    match target.required with
    | .list item => readList item (itemReadings items)
    | .record name fields => readRow name fields (itemReadings items)
    | target => mismatch (.wrongType (.array items) target)
  | .object members, target =>
    match target.required with
    | .map value => readMap value (memberReadings members)
    | .record _ fields => readRecord fields (memberReadings members)
    | target => mismatch (.wrongType (.object members) target)

def itemReadings : List Value → List Reading
  | [] => []
  | v :: rest => extract v :: itemReadings rest

def memberReadings : List (String × Value) → List (String × Reading)
  | [] => []
  | (key, v) :: rest => (key, extract v) :: memberReadings rest

end

/-- Why a document cannot be had as what is asked for. -/
inductive Refusal where
  | invalid (finding : Finding)
  | misfit (misfit : Misfit)

def Refusal.message : Refusal → String
  | .invalid f => f.message
  | .misfit m => m.message

end Extraction

def Root.extractText (r : Root) (target : Extraction.Target) (text : List UInt8) :
    Except Extraction.Refusal Json.Value := do
  let normal ← (r.validateText text).mapError .invalid
  (Extraction.extract normal target).mapError .misfit

end DocumentSchema
