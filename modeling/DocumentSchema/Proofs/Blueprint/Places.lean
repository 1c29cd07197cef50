import DocumentSchema.Proofs.Blueprint.Constraints

namespace DocumentSchema.Blueprint

open DocumentSchema.Except (mapError_eq_ok_iff)

section Unplaced

/-- A part that has lost its place. -/
def Located.unplaced {α : Type} (part : Located α) : Located α := ⟨part.value, .nowhere⟩

def ConstraintClause.unplaced (clause : ConstraintClause) : ConstraintClause :=
  ⟨clause.key.unplaced, clause.literal.unplaced⟩

mutual

def TypeClause.unplaced : TypeClause → TypeClause
  | .scalar kind clauses => .scalar kind (clauses.map ConstraintClause.unplaced)
  | .named name => .named name.unplaced
  | .inline openness fields => .inline openness (unplacedFields fields)
  | .array item => .array item.unplaced

def unplacedFields : List Field → List Field
  | [] => []
  | ⟨name, isOptional, type, default⟩ :: rest =>
    ⟨name.unplaced, isOptional, type.unplaced, default.map Located.unplaced⟩ :: unplacedFields rest

end

def TypeDeclaration.unplaced (d : TypeDeclaration) : TypeDeclaration :=
  ⟨d.name.unplaced, d.isRoot, d.openness, unplacedFields d.fields⟩

def Item.unplaced : Item → Item
  | .type d => .type d.unplaced
  | .root name => .root name.unplaced

end Unplaced

/-- The same result, with a fault that has lost its place. -/
def Resolved.unplaced {α : Type} (result : Resolved α) : Resolved α :=
  result.mapError Located.unplaced

theorem unplaced_bind {α β : Type} (x : Resolved α) (f : α → Resolved β) :
    Resolved.unplaced (x >>= f) = Resolved.unplaced x >>= fun a ↦ Resolved.unplaced (f a) := by
  cases x <;> rfl

section Constraints

variable (clause : ConstraintClause) (kind : ScalarKind) (clauses : List ConstraintClause)
  (c : Constraints)

theorem number_unplaced : clause.unplaced.number = Resolved.unplaced clause.number := by
  obtain ⟨key, ⟨literal, place⟩⟩ := clause
  cases literal <;> rfl

theorem length_unplaced : clause.unplaced.length = Resolved.unplaced clause.length := by
  obtain ⟨key, ⟨literal, place⟩⟩ := clause
  cases literal with
  | number n =>
    simp only [ConstraintClause.length, ConstraintClause.unplaced, Located.unplaced]
    cases n.toNat? <;> rfl
  | null | bool | string => rfl

theorem once_unplaced {α : Type} (old : Option α) (value : α) :
    clause.unplaced.once old value = Resolved.unplaced (clause.once old value) := by
  cases old <;> rfl

theorem laterKey_unplaced (a b : ConstraintKey) :
    laterKey (clauses.map ConstraintClause.unplaced) a b = .nowhere := by
  simp only [laterKey, ← List.map_reverse, List.find?_map]
  cases clauses.reverse.find? _ <;> rfl

theorem checkOrder_unplaced : checkOrder (clauses.map ConstraintClause.unplaced) c =
    Resolved.unplaced (checkOrder clauses c) := by
  rcases checkOrder_cases c with ⟨low, high, -, -, -, h⟩ | ⟨low, high, -, -, -, h⟩ | ⟨-, h⟩
  · rw [h, h, laterKey_unplaced]
    rfl
  · rw [h, h, laterKey_unplaced]
    rfl
  · rw [h, h]
    rfl

variable [PatternEngine]

theorem pattern_unplaced : clause.unplaced.pattern = Resolved.unplaced clause.pattern := by
  obtain ⟨key, ⟨literal, place⟩⟩ := clause
  cases literal with
  | string source =>
    simp only [ConstraintClause.pattern, ConstraintClause.unplaced, Located.unplaced]
    cases Pattern.ofText source <;> rfl
  | null | bool | number => rfl

theorem addConstraint_unplaced :
    addConstraint kind c clause.unplaced = Resolved.unplaced (addConstraint kind c clause) := by
  have hkey : clause.unplaced.key.value = clause.key.value := rfl
  unfold addConstraint
  rw [hkey]
  cases ConstraintKey.ofWord? clause.key.value with
  | none => rfl
  | some key =>
    cases happlies : key.appliesTo kind with
    | false => simp only [happlies]; rfl
    | true =>
      cases key
      all_goals
        simp only [happlies, Bool.not_true, Bool.false_eq_true, if_false, number_unplaced,
          length_unplaced, pattern_unplaced, once_unplaced, unplaced_bind]
        rfl

theorem foldlM_addConstraint_unplaced :
    (clauses.map ConstraintClause.unplaced).foldlM (addConstraint kind) c =
      Resolved.unplaced (clauses.foldlM (addConstraint kind) c) := by
  induction clauses generalizing c with
  | nil => rfl
  | cons clause rest ih =>
    rw [List.map_cons, List.foldlM_cons, List.foldlM_cons, addConstraint_unplaced, unplaced_bind]
    simp only [ih]

theorem resolveScalar_unplaced :
    resolveScalar kind (clauses.map ConstraintClause.unplaced) =
      Resolved.unplaced (resolveScalar kind clauses) := by
  unfold resolveScalar
  simp only [foldlM_addConstraint_unplaced, checkOrder_unplaced, unplaced_bind]
  rfl

end Constraints

theorem resolveDefault_unplaced (field : String) (type : FieldType) (literal : Located Literal) :
    resolveDefault field type literal.unplaced =
      Resolved.unplaced (resolveDefault field type literal) := by
  have hvalue : literal.unplaced.value = literal.value := rfl
  cases type with
  | scalar s =>
    simp only [resolveDefault, hvalue]
    cases Validation.scalarViolation? s literal.value.toValue <;> rfl
  | named | inline | array => rfl

theorem mapM_resolveDefault_unplaced (field : String) (type : FieldType)
    (default : Option (Located Literal)) :
    (default.map Located.unplaced).mapM (resolveDefault field type) =
      Resolved.unplaced (default.mapM (resolveDefault field type)) := by
  cases default with
  | none => rfl
  | some literal =>
    rw [Option.map_some, Option.mapM_some, Option.mapM_some, resolveDefault_unplaced]
    cases resolveDefault field type literal <;> rfl

namespace Scope

variable (scope : Scope)

variable [PatternEngine]

mutual

theorem resolveType_unplaced (name : String) (next : Nat) (clause : TypeClause) :
    resolveType scope name next clause.unplaced =
      Resolved.unplaced (resolveType scope name next clause) := by
  cases clause with
  | scalar kind clauses =>
    rw [TypeClause.unplaced, resolveType, resolveType, resolveScalar_unplaced, unplaced_bind]
    rfl
  | named type =>
    rw [TypeClause.unplaced, resolveType, resolveType]
    have hvalue : type.unplaced.value = type.value := rfl
    rw [hvalue]
    cases scope.names.idxOf? type.value <;> rfl
  | inline openness fields =>
    rw [TypeClause.unplaced, resolveType, resolveType, resolveFields_unplaced, unplaced_bind]
    rfl
  | array item =>
    rw [TypeClause.unplaced, resolveType, resolveType, resolveType_unplaced, unplaced_bind]
    rfl

theorem resolveFields_unplaced (owner : String) (next : Nat) (seen : List String)
    (fields : List Field) : resolveFields scope owner next seen (unplacedFields fields) =
      Resolved.unplaced (resolveFields scope owner next seen fields) := by
  cases fields with
  | nil => rfl
  | cons field rest =>
    obtain ⟨name, isOptional, clause, literal⟩ := field
    have hvalue : name.unplaced.value = name.value := rfl
    rw [unplacedFields, resolveFields, resolveFields, hvalue]
    by_cases hseen : seen.contains name.value
    case pos =>
      rw [if_pos hseen, if_pos hseen]
      rfl
    case neg =>
      rw [if_neg hseen, if_neg hseen]
      dsimp only
      rw [resolveType_unplaced, unplaced_bind]
      refine bind_congr fun (type, own) ↦ ?_
      rw [mapM_resolveDefault_unplaced, unplaced_bind]
      refine bind_congr fun default ↦ ?_
      rw [resolveFields_unplaced, unplaced_bind]
      rfl

end

theorem resolveTypes_unplaced (next : Nat) (ds : List TypeDeclaration) :
    scope.resolveTypes next (ds.map TypeDeclaration.unplaced) =
      Resolved.unplaced (scope.resolveTypes next ds) := by
  induction ds generalizing next with
  | nil => rfl
  | cons d rest ih =>
    rw [List.map_cons, resolveTypes, resolveTypes, TypeDeclaration.unplaced, resolveFields_unplaced,
      unplaced_bind]
    refine bind_congr fun (fields, own) ↦ ?_
    dsimp only
    rw [ih, unplaced_bind]
    rfl

end Scope

theorem declaredNames_unplaced (seen : List String) (ds : List TypeDeclaration) :
    declaredNames seen (ds.map TypeDeclaration.unplaced) =
      Resolved.unplaced (declaredNames seen ds) := by
  induction ds generalizing seen with
  | nil => rfl
  | cons d rest ih =>
    have hname : d.unplaced.name.value = d.name.value := rfl
    rw [List.map_cons, declaredNames, declaredNames, hname]
    split
    · rfl
    split
    · rfl
    · exact ih _

theorem resolveRoots_unplaced (names : List String) (found : List (String × Nat))
    (roots : List (Located String)) : resolveRoots names found (roots.map Located.unplaced) =
      Resolved.unplaced (resolveRoots names found roots) := by
  induction roots generalizing found with
  | nil => rfl
  | cons root rest ih =>
    have hvalue : root.unplaced.value = root.value := rfl
    rw [List.map_cons, resolveRoots, resolveRoots, hvalue]
    cases names.idxOf? root.value with
    | none => rfl
    | some id =>
      by_cases hfound : (found.lookup root.value).isSome
      · simp only [if_pos hfound]
        rfl
      · simp only [if_neg hfound]
        exact ih _

section Items

variable (items : List Item)

theorem filterMap_declaration?_unplaced : (items.map Item.unplaced).filterMap Item.declaration? =
    (items.filterMap Item.declaration?).map TypeDeclaration.unplaced := by
  rw [List.filterMap_map, List.map_filterMap]
  congr
  funext item
  cases item <;> rfl

theorem filterMap_root?_unplaced : (items.map Item.unplaced).filterMap Item.root? =
    (items.filterMap Item.root?).map Located.unplaced := by
  rw [List.filterMap_map, List.map_filterMap]
  congr
  funext item
  cases item with
  | type d =>
    obtain ⟨name, isRoot, openness, fields⟩ := d
    cases isRoot <;> rfl
  | root name => rfl

variable [PatternEngine]

theorem resolve_unplaced (origin : String) (openByDefault : Bool) :
    resolve origin openByDefault (items.map Item.unplaced) =
      Resolved.unplaced (resolve origin openByDefault items) := by
  unfold resolve
  simp only [filterMap_declaration?_unplaced, filterMap_root?_unplaced, declaredNames_unplaced,
    Scope.resolveTypes_unplaced, resolveRoots_unplaced, unplaced_bind]
  rfl

variable {items} {origin : String} {openByDefault : Bool} {s : Schema}

theorem resolve_unplaced_eq_ok_iff : resolve origin openByDefault (items.map Item.unplaced) = .ok s ↔
    resolve origin openByDefault items = .ok s := by
  rw [resolve_unplaced, Resolved.unplaced, mapError_eq_ok_iff]

end Items

end DocumentSchema.Blueprint
