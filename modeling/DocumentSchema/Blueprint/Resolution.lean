import DocumentSchema.Blueprint.Fault
import DocumentSchema.Validation.Scalar

namespace DocumentSchema.Blueprint

abbrev Resolved (α : Type) := Except (Located Fault) α

def refuse {α : Type} (fault : Fault) (location : Location) : Resolved α := .error ⟨fault, location⟩

inductive ConstraintKey where
  | minimum
  | maximum
  | minLength
  | maxLength
  | pattern
  deriving DecidableEq

namespace ConstraintKey

def ofWord? : String → Option ConstraintKey
  | "min" => some minimum
  | "max" => some maximum
  | "min_length" => some minLength
  | "max_length" => some maxLength
  | "pattern" => some pattern
  | _ => none

def appliesTo : ConstraintKey → ScalarKind → Bool
  | minimum, kind | maximum, kind => kind = .number || kind = .integer
  | minLength, kind | maxLength, kind | pattern, kind => kind = .string

end ConstraintKey

namespace ConstraintClause

def number (clause : ConstraintClause) : Resolved Json.Number :=
  match clause.literal.value with
  | .number n => .ok n
  | _ => refuse (.invalidConstraint (.notNumber clause.key.value)) clause.literal.location

def length (clause : ConstraintClause) : Resolved Nat :=
  match clause.literal.value with
  | .number n =>
    match n.toNat? with
    | some length => .ok length
    | none => refuse (.invalidConstraint (.notLength clause.key.value)) clause.literal.location
  | _ => refuse (.invalidConstraint (.notLength clause.key.value)) clause.literal.location

def pattern [PatternEngine] (clause : ConstraintClause) : Resolved Pattern :=
  match clause.literal.value with
  | .string source =>
    match Pattern.ofText source with
    | .ok p => .ok p
    | .error reason => refuse (.invalidConstraint (.badPattern reason)) clause.literal.location
  | _ => refuse (.invalidConstraint (.notString clause.key.value)) clause.literal.location

def once {α : Type} (clause : ConstraintClause) (old : Option α) (value : α) : Resolved (Option α) :=
  match old with
  | none => .ok (some value)
  | some _ => refuse (.invalidConstraint (.givenTwice clause.key.value)) clause.key.location

end ConstraintClause

variable [PatternEngine]

def addConstraint (kind : ScalarKind) (c : Constraints) (clause : ConstraintClause) :
    Resolved Constraints :=
  match ConstraintKey.ofWord? clause.key.value with
  | none => refuse (.invalidConstraint (.unknownKey clause.key.value)) clause.key.location
  | some key =>
    if !key.appliesTo kind then
      refuse (.invalidConstraint (.notApplicable clause.key.value kind)) clause.key.location
    else match key with
      | .minimum => do return { c with minimum := ← clause.once c.minimum (← clause.number) }
      | .maximum => do return { c with maximum := ← clause.once c.maximum (← clause.number) }
      | .minLength => do return { c with minLength := ← clause.once c.minLength (← clause.length) }
      | .maxLength => do return { c with maxLength := ← clause.once c.maxLength (← clause.length) }
      | .pattern => do return { c with pattern := ← clause.once c.pattern (← clause.pattern) }

def laterKey (clauses : List ConstraintClause) (a b : ConstraintKey) : Location :=
  let isEither (clause : ConstraintClause) : Bool :=
    ConstraintKey.ofWord? clause.key.value ∈ [some a, some b]
  ((clauses.reverse.find? isEither).map (·.key.location)).getD .nowhere

def checkOrder (clauses : List ConstraintClause) (c : Constraints) : Resolved Constraints := do
  if let (some low, some high) := (c.minimum, c.maximum) then
    if low.order high = .gt then
      refuse (.invalidConstraint (.invertedBounds low high)) (laterKey clauses .minimum .maximum)
  if let (some low, some high) := (c.minLength, c.maxLength) then
    if high < low then
      refuse (.invalidConstraint (.invertedLengths low high))
        (laterKey clauses .minLength .maxLength)
  return c

def resolveScalar (kind : ScalarKind) (clauses : List ConstraintClause) : Resolved Scalar := do
  return ⟨kind, ← checkOrder clauses (← clauses.foldlM (addConstraint kind) .none)⟩

def resolveDefault (field : String) (type : FieldType) (literal : Located Literal) :
    Resolved Json.Value :=
  match type with
  | .scalar s =>
    match Validation.scalarViolation? s literal.value.toValue with
    | none => .ok literal.value.toValue
    | some v => refuse (.invalidDefault field (.violation v)) literal.location
  | _ => refuse (.invalidDefault field .notScalar) literal.location

/-- What resolving a body depends on besides the body. -/
structure Scope where
  names : List String
  openByDefault : Bool

namespace Scope

def isClosed (scope : Scope) : Option Openness → Bool
  | some .open => false
  | some .closed => true
  | none => !scope.openByDefault

mutual

/-- The type of a field, and the types written in place inside it, which take the places from `next`
on. The first of them is named after `owner` and the field. -/
def resolveType (scope : Scope) (name : String) (next : Nat) :
    TypeClause → Resolved (FieldType × List TypeDefinition)
  | .scalar kind clauses => do return (.scalar (← resolveScalar kind clauses), [])
  | .named type =>
    match scope.names.idxOf? type.value with
    | some id => .ok (.named id, [])
    | none => refuse (.unresolved type.value) type.location
  | .inline openness fields => do
    let (fields, inner) ← resolveFields scope name (next + 1) [] fields
    return (.inline next, ⟨name, fields, scope.isClosed openness, true⟩ :: inner)
  | .array item => do
    let (item, inner) ← resolveType scope name next item
    return (.array item, inner)

/-- The fields of a body, and the types written in place inside them, which take the places from
`next` on. The names of the fields before are given. -/
def resolveFields (scope : Scope) (owner : String) (next : Nat) (seen : List String) :
    List Field → Resolved (List FieldDefinition × List TypeDefinition)
  | [] => .ok ([], [])
  | ⟨name, isOptional, type, default⟩ :: rest => do
    if seen.contains name.value then refuse (.duplicate .field name.value) name.location
    let (type, inner) ← resolveType scope s!"{owner}.{name.value}" next type
    let default ← default.mapM (resolveDefault name.value type)
    let (fields, others) ←
      resolveFields scope owner (next + inner.length) (name.value :: seen) rest
    return (⟨name.value, type, !isOptional && default.isNone, default⟩ :: fields, inner ++ others)

end

/-- The declared types in their order, and after them the types written in place inside them, which
take the places from `next` on. -/
def resolveTypes (scope : Scope) (next : Nat) :
    List TypeDeclaration → Resolved (List TypeDefinition × List TypeDefinition)
  | [] => .ok ([], [])
  | d :: rest => do
    let (fields, inner) ← scope.resolveFields d.name.value next [] d.fields
    let (types, others) ← scope.resolveTypes (next + inner.length) rest
    return (⟨d.name.value, fields, scope.isClosed d.openness, false⟩ :: types, inner ++ others)

end Scope

def declaredNames (seen : List String) : List TypeDeclaration → Resolved (List String)
  | [] => .ok seen
  | d :: rest =>
    let name := d.name.value
    if (ScalarKind.ofWord? name).isSome then refuse (.form (.reservedName name)) d.name.location
    else if seen.contains name then refuse (.duplicate .type name) d.name.location
    else declaredNames (seen ++ [name]) rest

def Item.declaration? : Item → Option TypeDeclaration
  | .type d => some d
  | .root _ => none

def Item.root? : Item → Option (Located String)
  | .type d => if d.isRoot then some d.name else none
  | .root name => some name

/-- The roots and the places of their types, after those found before. -/
def resolveRoots (names : List String) (found : List (String × Nat)) :
    List (Located String) → Resolved (List (String × Nat))
  | [] => .ok found
  | root :: rest =>
    match names.idxOf? root.value with
    | none => refuse (.unresolved root.value) root.location
    | some id =>
      if (found.lookup root.value).isSome then refuse (.duplicate .root root.value) root.location
      else resolveRoots names (found ++ [(root.value, id)]) rest

def resolve (origin : String) (openByDefault : Bool) (items : List Item) : Resolved Schema := do
  let declarations := items.filterMap Item.declaration?
  let names ← declaredNames [] declarations
  let (types, inner) ← Scope.resolveTypes ⟨names, openByDefault⟩ names.length declarations
  let roots ← resolveRoots names [] (items.filterMap Item.root?)
  return ⟨origin, types ++ inner, roots⟩

end DocumentSchema.Blueprint
