import DocumentSchema.Proofs.Blueprint.Resolution
import DocumentSchema.Proofs.Schema.Ownership

namespace DocumentSchema.Blueprint

/-- The places from `next` on, one for each of `inner`, are those that fields outside lead to,
together with those that the fields of `inner` lead to. -/
def Enumerated (next : Nat) (outside : List Nat) (inner : List TypeDefinition) : Prop :=
  (outside ++ inner.flatMap (·.inlinePlaces)).Perm (List.range' next inner.length)

section Enumerated

variable {next : Nat} {outside outside' : List Nat} {inner inner' : List TypeDefinition}
  {d : TypeDefinition}

theorem enumerated_nil : Enumerated next [] [] := List.Perm.refl _

theorem Enumerated.append (h : Enumerated next outside inner)
    (h' : Enumerated (next + inner.length) outside' inner') :
    Enumerated next (outside ++ outside') (inner ++ inner') := by
  have hswap : ((outside ++ outside') ++
      (inner.flatMap (·.inlinePlaces) ++ inner'.flatMap (·.inlinePlaces))).Perm
      ((outside ++ inner.flatMap (·.inlinePlaces)) ++
        (outside' ++ inner'.flatMap (·.inlinePlaces))) := by
    rw [List.append_assoc, List.append_assoc]
    exact (List.perm_append_comm_assoc _ _ _).append_left _
  rw [Enumerated, List.flatMap_append, List.length_append, ← List.range'_append_1]
  exact hswap.trans (List.Perm.append h h')

theorem Enumerated.cons (h : Enumerated (next + 1) d.inlinePlaces inner) :
    Enumerated next [next] (d :: inner) := by
  rw [Enumerated, List.flatMap_cons, List.length_cons, List.range'_succ]
  exact List.Perm.cons next h

theorem inlinePlaces_cons {name : String} {f : FieldDefinition} {fields : List FieldDefinition}
    {closed anonymous : Bool} :
    (TypeDefinition.mk name (f :: fields) closed anonymous).inlinePlaces =
      f.type.inline?.toList ++ (TypeDefinition.mk name fields closed anonymous).inlinePlaces := by
  rw [TypeDefinition.inlinePlaces, TypeDefinition.inlinePlaces, List.filterMap_cons]
  cases f.type.inline? <;> rfl

end Enumerated

namespace Scope

variable {scope : Scope}

variable [PatternEngine]

mutual

theorem resolveType_enumerated {name : String} {next : Nat} {type : FieldType}
    {inner : List TypeDefinition} (clause : TypeClause)
    (h : resolveType scope name next clause = .ok (type, inner)) :
    Enumerated next type.inline?.toList inner := by
  cases clause with
  | scalar kind clauses =>
    obtain ⟨-, rfl, rfl⟩ := resolveType_scalar_eq_ok h
    exact enumerated_nil
  | named name =>
    obtain ⟨id, -, rfl, rfl⟩ := resolveType_named_eq_ok h
    exact enumerated_nil
  | inline openness fields =>
    obtain ⟨definitions, others, hfields, rfl, rfl⟩ := resolveType_inline_eq_ok h
    exact (resolveFields_enumerated fields hfields).cons
  | array item =>
    obtain ⟨itemType, hitem, rfl⟩ := resolveType_array_eq_ok h
    have hspec := resolveType_enumerated item hitem
    exact hspec

theorem resolveFields_enumerated {owner name : String} {next : Nat} {seen : List String}
    {definitions : List FieldDefinition} {inner : List TypeDefinition} {closed anonymous : Bool}
    (fields : List Field)
    (h : resolveFields scope owner next seen fields = .ok (definitions, inner)) :
    Enumerated next (TypeDefinition.mk name definitions closed anonymous).inlinePlaces inner := by
  cases fields with
  | nil =>
    obtain ⟨rfl, rfl⟩ := resolveFields_nil_eq_ok h
    exact enumerated_nil
  | cons field rest =>
    obtain ⟨fieldName, isOptional, clause, default⟩ := field
    obtain ⟨-, type, own, others, more, htype, -, hrest, rfl, rfl⟩ := resolveFields_cons_eq_ok h
    rw [inlinePlaces_cons]
    exact (resolveType_enumerated clause htype).append (resolveFields_enumerated rest hrest)

end

theorem resolveTypes_enumerated {next : Nat} {declarations : List TypeDeclaration}
    {types inner : List TypeDefinition}
    (h : resolveTypes scope next declarations = .ok (types, inner)) :
    Enumerated next (types.flatMap (·.inlinePlaces)) inner := by
  induction declarations generalizing next types inner with
  | nil =>
    cases h
    exact enumerated_nil
  | cons declaration rest ih =>
    obtain ⟨fields, own, others, more, hfields, hrest, rfl, rfl⟩ := resolveTypes_cons_eq_ok h
    rw [List.flatMap_cons]
    exact (resolveFields_enumerated declaration.fields hfields).append (ih hrest)

end Scope

variable [PatternEngine]

theorem resolve_ownedOnce {origin : String} {openByDefault : Bool} {items : List Item} {s : Schema}
    (h : resolve origin openByDefault items = .ok s) : s.OwnedOnce := by
  have htypeNames := resolve_typeNames h
  obtain ⟨types, inner, roots, rfl, -, hnames, hresolved, -⟩ := resolve_passes h
  rw [Schema.OwnedOnce, htypeNames, ← hnames, List.length_map, List.length_append,
    Nat.add_sub_cancel_left, List.flatMap_append]
  exact Scope.resolveTypes_enumerated hresolved

end DocumentSchema.Blueprint
