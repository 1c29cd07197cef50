import DocumentSchema.Schema

namespace DocumentSchema

/-- The place of the object type in the type of a field, under any number of brackets. -/
def FieldType.target? : FieldType → Option Nat
  | .scalar _ => none
  | .named id | .inline id => some id
  | .array item => item.target?

namespace Schema

def successors (s : Schema) (id : Nat) : List Nat :=
  (s.definition id).fields.filterMap (·.type.target?)

def visit (s : Schema) (unseen : List Nat) : (pending : List Nat) → List Nat
  | [] => []
  | id :: rest =>
    if id ∈ unseen then id :: visit s (unseen.erase id) (s.successors id ++ rest)
    else visit s unseen rest
termination_by pending => (unseen.length, pending.length)
decreasing_by
  · have : 0 < unseen.length := List.length_pos_of_mem ‹_›
    simp only [List.length_erase_of_mem ‹_›, Prod.lex_def]
    omega
  · simp [Prod.lex_def]

def reachable (s : Schema) (id : Nat) : List Nat := s.visit (List.range s.types.length) [id]

end Schema

end DocumentSchema
