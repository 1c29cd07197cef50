import DocumentSchema.Json.Printer

namespace DocumentSchema.Validation

inductive Segment where
  | field (name : String)
  | index (index : Nat)
  deriving DecidableEq

def Segment.label : Segment → String
  | .field name => name
  | .index i => toString i

abbrev Path := List Segment

namespace Path

def isIdentifier : List Char → Bool
  | [] => false
  | c :: rest => (c.isAlpha || c = '_') && rest.all fun c ↦ c.isAlphanum || c = '_'

/-- A segment as it continues a path, or begins one. Names that are no identifiers stand in brackets
and quotes. -/
def segmentText (first : Bool) : Segment → List Char
  | .index i => '[' :: Nat.toDigits 10 i ++ [']']
  | .field name =>
    if !isIdentifier name.toList then '[' :: Json.quoted name.toList ++ [']']
    else if first then name.toList
    else '.' :: name.toList

def text : Path → List Char
  | [] => "(root)".toList
  | s :: rest => segmentText true s ++ rest.flatMap (segmentText false)

def display (p : Path) : String := String.ofList p.text

end Path

end DocumentSchema.Validation
