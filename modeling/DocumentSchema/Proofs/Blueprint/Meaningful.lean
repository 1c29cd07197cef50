import DocumentSchema.Blueprint.Resolution
import DocumentSchema.Proofs.Schema.WellFormed

namespace DocumentSchema

namespace Blueprint

namespace Literal

def number? : Literal → Option Json.Number
  | .number n => some n
  | _ => none

def length? (l : Literal) : Option Nat := l.number?.bind Json.Number.toNat?

def string? : Literal → Option String
  | .string s => some s
  | _ => none

def pattern? [PatternEngine] (l : Literal) : Option Pattern :=
  l.string?.bind fun source ↦ (PatternEngine.search source).toOption.map (.mk source)

end Literal

theorem not_nodup_of_given {α β : Type} {value : α → β} {l before after : List α} {a : α}
    (split : l = before ++ a :: after) (given : value a ∈ before.map value) :
    ¬ (l.map value).Nodup := by
  rw [split, List.map_append, List.map_cons, List.nodup_append]
  rintro ⟨-, -, hdisjoint⟩
  exact hdisjoint _ given _ List.mem_cons_self rfl

inductive Inverted (c : Constraints) : ConstraintFault → Prop
  | bounds {low high : Json.Number} (minimum : c.minimum = some low) (maximum : c.maximum = some high)
      (inverted : low.order high = .gt) : Inverted c (.invertedBounds low high)
  | lengths {low high : Nat} (minLength : c.minLength = some low) (maxLength : c.maxLength = some high)
      (inverted : high < low) : Inverted c (.invertedLengths low high)

theorem Inverted.not_ordered {c : Constraints} {fault : ConstraintFault} (h : Inverted c fault) :
    ¬ c.Ordered := by
  intro hordered
  cases h with
  | bounds minimum maximum inverted => exact hordered.bounds _ _ minimum maximum inverted
  | lengths minLength maxLength inverted =>
    exact Nat.not_lt.2 (hordered.lengths _ _ minLength maxLength) inverted

variable [PatternEngine]

def ConstraintKey.Takes : ConstraintKey → Literal → Prop
  | minimum, literal | maximum, literal => literal.number?.isSome
  | minLength, literal | maxLength, literal => literal.length?.isSome
  | pattern, literal => literal.pattern?.isSome

def ConstraintClause.key? (clause : ConstraintClause) : Option ConstraintKey :=
  ConstraintKey.ofWord? clause.key.value

def statedLiteral? (clauses : List ConstraintClause) (key : ConstraintKey) : Option Literal :=
  (clauses.find? (·.key? = some key)).map (·.literal.value)

def statedConstraints (clauses : List ConstraintClause) : Constraints where
  minimum := (statedLiteral? clauses .minimum).bind Literal.number?
  maximum := (statedLiteral? clauses .maximum).bind Literal.number?
  minLength := (statedLiteral? clauses .minLength).bind Literal.length?
  maxLength := (statedLiteral? clauses .maxLength).bind Literal.length?
  pattern := (statedLiteral? clauses .pattern).bind Literal.pattern?

def statedScalar (kind : ScalarKind) (clauses : List ConstraintClause) : Scalar :=
  ⟨kind, statedConstraints clauses⟩

def ConstraintClause.Fits (kind : ScalarKind) (clause : ConstraintClause) : Prop :=
  ∃ key, clause.key? = some key ∧ key.appliesTo kind = true ∧ key.Takes clause.literal.value

structure ConstraintsFit (kind : ScalarKind) (clauses : List ConstraintClause) : Prop where
  each : ∀ clause ∈ clauses, clause.Fits kind
  once : (clauses.map (·.key.value)).Nodup
  ordered : (statedConstraints clauses).Ordered

def TypeClause.base : TypeClause → TypeClause
  | .array item => item.base
  | type => type

/-- A type that means something where types of some names are declared, apart from the bodies in
it. -/
structure TypeFits (names : List String) (type : TypeClause) : Prop where
  declared : ∀ name, type.base = .named name → name.value ∈ names
  constraints : ∀ kind clauses, type.base = .scalar kind clauses → ConstraintsFit kind clauses

structure FieldFits (names : List String) (f : Field) : Prop where
  type : TypeFits names f.type
  default : ∀ literal, f.default = some literal → ∃ kind clauses, f.type = .scalar kind clauses ∧
    (statedScalar kind clauses).Admits literal.value.toValue

structure BodyFits (names : List String) (body : List Field) : Prop where
  distinct : (body.map (·.name.value)).Nodup
  each : ∀ f ∈ body, FieldFits names f

mutual

def TypeClause.bodies : TypeClause → List (List Field)
  | .inline _ fields => fields :: bodiesWithin fields
  | .array item => item.bodies
  | .scalar _ _ | .named _ => []

def bodiesWithin : List Field → List (List Field)
  | [] => []
  | ⟨_, _, type, _⟩ :: rest => type.bodies ++ bodiesWithin rest

end

section Items

variable (items : List Item)

def declarations : List TypeDeclaration := items.filterMap Item.declaration?

omit [PatternEngine] in
variable {items} in
theorem mem_declarations_iff {d : TypeDeclaration} :
    d ∈ declarations items ↔ .type d ∈ items := by
  rw [declarations, List.mem_filterMap]
  constructor
  · rintro ⟨item, hitem, h⟩
    cases item with
    | type d' =>
      obtain rfl := Option.some.inj h
      exact hitem
    | root => cases h
  · intro h
    exact ⟨.type d, h, rfl⟩

def typeNames : List String := (declarations items).map (·.name.value)

def designations : List (Located String) := items.filterMap Item.root?

def allBodies : List (List Field) :=
  (declarations items).flatMap fun d ↦ d.fields :: bodiesWithin d.fields

/-- Declarations that mean something. -/
structure Meaningful : Prop where
  unreserved : ∀ name ∈ typeNames items, name ∉ ["number", "integer", "string", "boolean", "bool"]
  types_distinct : (typeNames items).Nodup
  bodies : ∀ body ∈ allBodies items, BodyFits (typeNames items) body
  roots_declared : ∀ root ∈ designations items, root.value ∈ typeNames items
  roots_distinct : ((designations items).map (·.value)).Nodup

end Items

section Faults

/-- A fault of a list of constraints. Bounds that are inverted are so at the later one of the two. -/
inductive ConstraintsFault (kind : ScalarKind) (clauses : List ConstraintClause) :
    Located Fault → Prop
  | unknownKey {clause : ConstraintClause} (mem : clause ∈ clauses) (unknown : clause.key? = none) :
      ConstraintsFault kind clauses
        ⟨.invalidConstraint (.unknownKey clause.key.value), clause.key.location⟩
  | notApplicable {clause : ConstraintClause} {key : ConstraintKey} (mem : clause ∈ clauses)
      (known : clause.key? = some key) (inapplicable : key.appliesTo kind = false) :
      ConstraintsFault kind clauses
        ⟨.invalidConstraint (.notApplicable clause.key.value kind), clause.key.location⟩
  | notNumber {clause : ConstraintClause} (mem : clause ∈ clauses)
      (known : clause.key? = some .minimum ∨ clause.key? = some .maximum)
      (wrong : clause.literal.value.number? = none) :
      ConstraintsFault kind clauses
        ⟨.invalidConstraint (.notNumber clause.key.value), clause.literal.location⟩
  | notLength {clause : ConstraintClause} (mem : clause ∈ clauses)
      (known : clause.key? = some .minLength ∨ clause.key? = some .maxLength)
      (wrong : clause.literal.value.length? = none) :
      ConstraintsFault kind clauses
        ⟨.invalidConstraint (.notLength clause.key.value), clause.literal.location⟩
  | notString {clause : ConstraintClause} (mem : clause ∈ clauses)
      (known : clause.key? = some .pattern) (wrong : clause.literal.value.string? = none) :
      ConstraintsFault kind clauses
        ⟨.invalidConstraint (.notString clause.key.value), clause.literal.location⟩
  | badPattern {clause : ConstraintClause} {source reason : String} (mem : clause ∈ clauses)
      (known : clause.key? = some .pattern) (isString : clause.literal.value = .string source)
      (bad : PatternEngine.search source = .error reason) :
      ConstraintsFault kind clauses
        ⟨.invalidConstraint (.badPattern reason), clause.literal.location⟩
  | givenTwice {before after : List ConstraintClause} {clause : ConstraintClause}
      (split : clauses = before ++ clause :: after)
      (given : clause.key.value ∈ before.map (·.key.value)) :
      ConstraintsFault kind clauses
        ⟨.invalidConstraint (.givenTwice clause.key.value), clause.key.location⟩
  | invertedBounds {before after : List ConstraintClause} {clause : ConstraintClause}
      {low high : Json.Number} (split : clauses = before ++ clause :: after)
      (isBound : clause.key? = some .minimum ∨ clause.key? = some .maximum)
      (last : ∀ c ∈ after, c.key? ≠ some .minimum ∧ c.key? ≠ some .maximum)
      (minimum : (statedConstraints clauses).minimum = some low)
      (maximum : (statedConstraints clauses).maximum = some high)
      (inverted : low.order high = .gt) :
      ConstraintsFault kind clauses
        ⟨.invalidConstraint (.invertedBounds low high), clause.key.location⟩
  | invertedLengths {before after : List ConstraintClause} {clause : ConstraintClause}
      {low high : Nat} (split : clauses = before ++ clause :: after)
      (isBound : clause.key? = some .minLength ∨ clause.key? = some .maxLength)
      (last : ∀ c ∈ after, c.key? ≠ some .minLength ∧ c.key? ≠ some .maxLength)
      (minLength : (statedConstraints clauses).minLength = some low)
      (maxLength : (statedConstraints clauses).maxLength = some high)
      (inverted : high < low) :
      ConstraintsFault kind clauses
        ⟨.invalidConstraint (.invertedLengths low high), clause.key.location⟩

/-- A fault of a type, apart from the bodies in it. -/
inductive TypeFault (names : List String) (type : TypeClause) : Located Fault → Prop
  | unresolved {name : Located String} (base : type.base = .named name)
      (undeclared : name.value ∉ names) : TypeFault names type ⟨.unresolved name.value, name.location⟩
  | constraints {kind : ScalarKind} {clauses : List ConstraintClause} {fault : Located Fault}
      (base : type.base = .scalar kind clauses) (faulty : ConstraintsFault kind clauses fault) :
      TypeFault names type fault

/-- A fault of a field, apart from the bodies in its type. -/
inductive FieldFault (names : List String) (f : Field) : Located Fault → Prop
  | type {fault : Located Fault} (faulty : TypeFault names f.type fault) : FieldFault names f fault
  | notScalar {literal : Located Literal} (default : f.default = some literal)
      (notScalar : ∀ kind clauses, f.type ≠ .scalar kind clauses) :
      FieldFault names f ⟨.invalidDefault f.name.value .notScalar, literal.location⟩
  | misfit {literal : Located Literal} {kind : ScalarKind} {clauses : List ConstraintClause}
      {violation : Validation.Violation} (default : f.default = some literal)
      (isScalar : f.type = .scalar kind clauses)
      (violated : Validation.scalarViolation? (statedScalar kind clauses) literal.value.toValue =
        some violation) :
      FieldFault names f ⟨.invalidDefault f.name.value (.violation violation), literal.location⟩

/-- A fault of a body, apart from the bodies in its fields. -/
inductive BodyFault (names : List String) (body : List Field) : Located Fault → Prop
  | duplicate {before after : List Field} {f : Field} (split : body = before ++ f :: after)
      (given : f.name.value ∈ before.map (·.name.value)) :
      BodyFault names body ⟨.duplicate .field f.name.value, f.name.location⟩
  | field {f : Field} {fault : Located Fault} (mem : f ∈ body) (faulty : FieldFault names f fault) :
      BodyFault names body fault

/-- A fault that declarations have, and the place where they have it. -/
inductive HasFault (items : List Item) : Located Fault → Prop
  | reserved {d : TypeDeclaration} (mem : d ∈ declarations items)
      (reserved : d.name.value ∈ ["number", "integer", "string", "boolean", "bool"]) :
      HasFault items ⟨.form (.reservedName d.name.value), d.name.location⟩
  | duplicateType {before after : List TypeDeclaration} {d : TypeDeclaration}
      (split : declarations items = before ++ d :: after)
      (given : d.name.value ∈ before.map (·.name.value)) :
      HasFault items ⟨.duplicate .type d.name.value, d.name.location⟩
  | body {body : List Field} {fault : Located Fault} (mem : body ∈ allBodies items)
      (faulty : BodyFault (typeNames items) body fault) : HasFault items fault
  | unresolvedRoot {root : Located String} (mem : root ∈ designations items)
      (undeclared : root.value ∉ typeNames items) :
      HasFault items ⟨.unresolved root.value, root.location⟩
  | duplicateRoot {before after : List (Located String)} {root : Located String}
      (split : designations items = before ++ root :: after)
      (given : root.value ∈ before.map (·.value)) :
      HasFault items ⟨.duplicate .root root.value, root.location⟩

variable {kind : ScalarKind} {clauses : List ConstraintClause} {names : List String}
  {body : List Field} {f : Field} {items : List Item} {fault : Located Fault}

theorem ConstraintClause.Fits.of_key {clause : ConstraintClause} {key : ConstraintKey}
    (h : clause.Fits kind) (known : clause.key? = some key) :
    key.appliesTo kind = true ∧ key.Takes clause.literal.value := by
  obtain ⟨key', hkey, hfits⟩ := h
  obtain rfl := Option.some.inj (known.symm.trans hkey)
  exact hfits

theorem ConstraintsFault.inverted (h : ConstraintsFault kind clauses fault)
    (each : ∀ clause ∈ clauses, clause.Fits kind) (once : (clauses.map (·.key.value)).Nodup) :
    ∃ inverted place, fault = ⟨.invalidConstraint inverted, place⟩ ∧
      Inverted (statedConstraints clauses) inverted := by
  cases h with
  | unknownKey mem unknown =>
    obtain ⟨key, hkey, -⟩ := each _ mem
    simp [unknown] at hkey
  | notApplicable mem known inapplicable =>
    obtain ⟨happlies, -⟩ := (each _ mem).of_key known
    simp [inapplicable] at happlies
  | notNumber mem known wrong =>
    rcases known with known | known
    all_goals
      obtain ⟨-, htakes⟩ := (each _ mem).of_key known
      simp [ConstraintKey.Takes, wrong] at htakes
  | notLength mem known wrong =>
    rcases known with known | known
    all_goals
      obtain ⟨-, htakes⟩ := (each _ mem).of_key known
      simp [ConstraintKey.Takes, wrong] at htakes
  | notString mem known wrong =>
    obtain ⟨-, htakes⟩ := (each _ mem).of_key known
    simp [ConstraintKey.Takes, Literal.pattern?, wrong] at htakes
  | badPattern mem known isString bad =>
    obtain ⟨-, htakes⟩ := (each _ mem).of_key known
    simp [ConstraintKey.Takes, Literal.pattern?, isString, Literal.string?, bad, Except.toOption]
      at htakes
  | givenTwice split given => exact absurd once (not_nodup_of_given split given)
  | invertedBounds split isBound last minimum maximum inverted =>
    exact ⟨_, _, rfl, .bounds minimum maximum inverted⟩
  | invertedLengths split isBound last minLength maxLength inverted =>
    exact ⟨_, _, rfl, .lengths minLength maxLength inverted⟩

theorem ConstraintsFault.not_fit (h : ConstraintsFault kind clauses fault) :
    ¬ ConstraintsFit kind clauses := by
  intro hfit
  obtain ⟨inverted, place, -, hinverted⟩ := h.inverted hfit.each hfit.once
  exact hinverted.not_ordered hfit.ordered

theorem TypeFault.not_fits {type : TypeClause} (h : TypeFault names type fault) :
    ¬ TypeFits names type := by
  intro hfits
  cases h with
  | unresolved base undeclared => exact undeclared (hfits.declared _ base)
  | constraints base faulty => exact faulty.not_fit (hfits.constraints _ _ base)

theorem FieldFault.not_fits (h : FieldFault names f fault) : ¬ FieldFits names f := by
  intro hfits
  cases h with
  | type faulty => exact faulty.not_fits hfits.type
  | notScalar default notScalar =>
    obtain ⟨kind, clauses, htype, -⟩ := hfits.default _ default
    exact notScalar kind clauses htype
  | misfit default isScalar violated =>
    obtain ⟨kind, clauses, htype, hadmits⟩ := hfits.default _ default
    rw [isScalar] at htype
    cases htype
    simp [Scalar.scalarViolation?_eq_none_iff.2 hadmits] at violated

theorem BodyFault.not_fits (h : BodyFault names body fault) : ¬ BodyFits names body := by
  intro hfits
  cases h with
  | duplicate split given => exact not_nodup_of_given split given hfits.distinct
  | field mem faulty => exact faulty.not_fits (hfits.each _ mem)

theorem HasFault.not_meaningful (h : HasFault items fault) : ¬ Meaningful items := by
  intro hmeaningful
  cases h with
  | reserved mem reserved => exact hmeaningful.unreserved _ (List.mem_map_of_mem mem) reserved
  | duplicateType split given => exact not_nodup_of_given split given hmeaningful.types_distinct
  | body mem faulty => exact faulty.not_fits (hmeaningful.bodies _ mem)
  | unresolvedRoot mem undeclared => exact undeclared (hmeaningful.roots_declared _ mem)
  | duplicateRoot split given => exact not_nodup_of_given split given hmeaningful.roots_distinct

end Faults

end Blueprint

end DocumentSchema
