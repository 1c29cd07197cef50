namespace DocumentSchema.Extraction

inductive Target where
  | double
  | signed (bits : Nat)
  | unsigned (bits : Nat)
  | string
  | boolean
  | list (item : Target)
  | map (value : Target)
  | optional (target : Target)
  | record (name : String) (fields : List (String × Target))

namespace Target

def isOptional : Target → Bool
  | optional _ => true
  | _ => false

def required : Target → Target
  | optional target => target.required
  | target => target

def description : Target → String
  | double => "f64"
  | signed bits => s!"i{bits}"
  | unsigned bits => s!"u{bits}"
  | string => "a string"
  | boolean => "a boolean"
  | list _ => "a sequence"
  | map _ => "a map"
  | optional target => target.description
  | record name _ => s!"struct {name}"

/-- The whole numbers that a target admits, if it is one of whole numbers. -/
def admits? : Target → Int → Option Bool
  | signed bits, n =>
    let half : Nat := 1 <<< (bits - 1)
    some (-half ≤ n ∧ n < half)
  | unsigned bits, n =>
    let size : Nat := 1 <<< bits
    some (0 ≤ n ∧ n < size)
  | _, _ => none

end Target

end DocumentSchema.Extraction
