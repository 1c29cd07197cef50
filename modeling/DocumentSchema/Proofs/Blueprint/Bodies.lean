import DocumentSchema.Proofs.Blueprint.Resolution

namespace DocumentSchema.Blueprint

open DocumentSchema.Except (bind_eq_error_iff)

section Defaults

variable {field : String} {type : FieldType} {literal : Located Literal} {fault : Located Fault}

theorem resolveDefault_eq_error (h : resolveDefault field type literal = .error fault) :
    ((∀ scalar, type ≠ .scalar scalar) ∧
      fault = ⟨.invalidDefault field .notScalar, literal.location⟩) ∨
    ∃ scalar violation, type = .scalar scalar ∧
      Validation.scalarViolation? scalar literal.value.toValue = some violation ∧
      fault = ⟨.invalidDefault field (.violation violation), literal.location⟩ := by
  unfold resolveDefault at h
  split at h
  case h_1 scalar =>
    split at h
    case h_1 => cases h
    case h_2 violation hviolation =>
      cases h
      exact .inr ⟨scalar, violation, rfl, hviolation, rfl⟩
  case h_2 notScalar =>
    cases h
    exact .inl ⟨notScalar, rfl⟩

theorem mapM_resolveDefault_eq_error {default : Option (Located Literal)}
    (h : default.mapM (resolveDefault field type) = .error fault) :
    ∃ literal, default = some literal ∧ resolveDefault field type literal = .error fault := by
  cases default with
  | none => cases h
  | some literal =>
    rcases bind_eq_error_iff.1 h with h | ⟨v, -, h⟩
    · exact ⟨literal, rfl, h⟩
    · cases h

end Defaults

section Brackets

variable {names : List String} {item : TypeClause} {fault : Located Fault}

variable [PatternEngine]

theorem TypeFits.array (h : TypeFits names item) : TypeFits names (.array item) where
  declared := h.declared
  constraints := h.constraints

theorem TypeFault.array (h : TypeFault names item fault) : TypeFault names (.array item) fault := by
  cases h with
  | unresolved base undeclared => exact .unresolved base undeclared
  | constraints base faulty => exact .constraints base faulty

end Brackets

namespace Scope

variable {scope : Scope}

variable [PatternEngine]

theorem resolveType_scalar {name : String} {next : Nat} {clause : TypeClause} {type : FieldType}
    {inner : List TypeDefinition}
    (h : resolveType scope name next clause = .ok (type, inner)) :
    (∃ kind clauses, clause = .scalar kind clauses ∧ type = .scalar (statedScalar kind clauses)) ∨
    (∀ kind clauses, clause ≠ .scalar kind clauses) ∧ ∀ scalar, type ≠ .scalar scalar := by
  cases clause with
  | scalar kind clauses =>
    obtain ⟨-, rfl, -⟩ := resolveType_scalar_eq_ok h
    exact .inl ⟨kind, clauses, rfl, rfl⟩
  | named name =>
    obtain ⟨id, -, rfl, -⟩ := resolveType_named_eq_ok h
    exact .inr ⟨by simp, by simp⟩
  | inline openness fields =>
    obtain ⟨definitions, others, -, rfl, -⟩ := resolveType_inline_eq_ok h
    exact .inr ⟨by simp, by simp⟩
  | array item =>
    obtain ⟨itemType, -, rfl⟩ := resolveType_array_eq_ok h
    exact .inr ⟨by simp, by simp⟩

theorem fieldFault_of_default {name : String} {next : Nat} {fault : Located Fault} {field : Field}
    {type : FieldType} {inner : List TypeDefinition}
    (htype : resolveType scope name next field.type = .ok (type, inner))
    (h : field.default.mapM (resolveDefault field.name.value type) = .error fault) :
    FieldFault scope.names field fault := by
  obtain ⟨literal, hdefault, h⟩ := mapM_resolveDefault_eq_error h
  rcases resolveType_scalar htype with ⟨kind, clauses, hkind, rfl⟩ | ⟨notScalar, hother⟩
  · rcases resolveDefault_eq_error h with ⟨hother, -⟩ | ⟨scalar, violation, hscalar, hviolation, rfl⟩
    · exact absurd rfl (hother _)
    · cases hscalar
      exact .misfit hdefault hkind hviolation
  · rcases resolveDefault_eq_error h with ⟨-, rfl⟩ | ⟨scalar, violation, hscalar, -⟩
    · exact .notScalar hdefault notScalar
    · exact absurd hscalar (hother scalar)

theorem fieldFits_of_resolved {name : String} {next : Nat} {field : Field} {type : FieldType}
    {inner : List TypeDefinition}
    (htype : resolveType scope name next field.type = .ok (type, inner))
    (hfits : TypeFits scope.names field.type)
    (hadmits : ∀ literal, field.default = some literal →
      ∃ scalar, type = .scalar scalar ∧ scalar.Admits literal.value.toValue) :
    FieldFits scope.names field := by
  refine ⟨hfits, fun literal hliteral ↦ ?_⟩
  obtain ⟨scalar, hscalar, hadmits⟩ := hadmits literal hliteral
  rcases resolveType_scalar htype with ⟨kind, clauses, hkind, rfl⟩ | ⟨-, hother⟩
  · cases hscalar
    exact ⟨kind, clauses, hkind, hadmits⟩
  · exact absurd hscalar (hother scalar)

mutual

theorem resolveType_fits {name : String} {next : Nat} {type : FieldType}
    {inner : List TypeDefinition} (clause : TypeClause)
    (h : resolveType scope name next clause = .ok (type, inner)) :
    TypeFits scope.names clause ∧ ∀ body ∈ clause.bodies, BodyFits scope.names body := by
  cases clause with
  | scalar kind clauses =>
    obtain ⟨hfit, -, -⟩ := resolveType_scalar_eq_ok h
    refine ⟨⟨fun _ hbase ↦ (by cases hbase), fun kind' clauses' hbase ↦ ?_⟩,
      by simp [TypeClause.bodies]⟩
    cases hbase
    exact hfit
  | named type =>
    obtain ⟨id, hid, -, -⟩ := resolveType_named_eq_ok h
    refine ⟨⟨fun name' hbase ↦ ?_, fun _ _ hbase ↦ (by cases hbase)⟩, by simp [TypeClause.bodies]⟩
    cases hbase
    exact List.mem_of_getElem? hid
  | inline openness fields =>
    obtain ⟨definitions, others, hfields, -, -⟩ := resolveType_inline_eq_ok h
    obtain ⟨-, -, hdistinct⟩ := resolveFields_names hfields
    obtain ⟨heach, hwithin⟩ := resolveFields_fits fields hfields
    refine ⟨⟨fun _ hbase ↦ (by cases hbase), fun _ _ hbase ↦ (by cases hbase)⟩, ?_⟩
    exact List.forall_mem_cons.2 ⟨⟨hdistinct, heach⟩, hwithin⟩
  | array item =>
    obtain ⟨itemType, hitem, -⟩ := resolveType_array_eq_ok h
    obtain ⟨hfits, hbodies⟩ := resolveType_fits item hitem
    exact ⟨hfits.array, hbodies⟩

theorem resolveFields_fits {owner : String} {next : Nat} {seen : List String}
    {definitions : List FieldDefinition} {inner : List TypeDefinition} (fields : List Field)
    (h : resolveFields scope owner next seen fields = .ok (definitions, inner)) :
    (∀ f ∈ fields, FieldFits scope.names f) ∧
      ∀ body ∈ bodiesWithin fields, BodyFits scope.names body := by
  cases fields with
  | nil => simp [bodiesWithin]
  | cons field rest =>
    obtain ⟨name, isOptional, clause, default⟩ := field
    obtain ⟨-, type, own, others, more, htype, hadmits, hrest, -, -⟩ := resolveFields_cons_eq_ok h
    obtain ⟨hfits, hbodies⟩ := resolveType_fits clause htype
    obtain ⟨heach, hwithin⟩ := resolveFields_fits rest hrest
    have hfield : FieldFits scope.names ⟨name, isOptional, clause, default⟩ :=
      fieldFits_of_resolved htype hfits hadmits
    exact ⟨List.forall_mem_cons.2 ⟨hfield, heach⟩, List.forall_mem_append.2 ⟨hbodies, hwithin⟩⟩

end

mutual

theorem resolveType_fault {name : String} {next : Nat} {fault : Located Fault} (clause : TypeClause)
    (h : resolveType scope name next clause = .error fault) :
    TypeFault scope.names clause fault ∨
      ∃ body ∈ clause.bodies, BodyFault scope.names body fault := by
  cases clause with
  | scalar kind clauses =>
    rw [resolveType] at h
    rcases bind_eq_error_iff.1 h with hscalar | ⟨scalar, -, h⟩
    · exact .inl (.constraints rfl (resolveScalar_fault hscalar))
    · cases h
  | named type =>
    rw [resolveType] at h
    split at h
    case h_1 => cases h
    case h_2 hnone =>
      cases h
      refine .inl (.unresolved rfl fun hmem ↦ ?_)
      rw [← List.isSome_idxOf?, hnone] at hmem
      cases hmem
  | inline openness fields =>
    rw [resolveType] at h
    rcases bind_eq_error_iff.1 h with hfields | ⟨⟨definitions, others⟩, -, h⟩
    · have hseen : ∀ n ∈ ([] : List String), n ∈ ([] : List Field).map (·.name.value) := by simp
      rcases resolveFields_fault fields hseen hfields with hbody | hwithin
      · exact .inr ⟨fields, List.mem_cons_self, hbody⟩
      · obtain ⟨body, hbody, hfault⟩ := hwithin
        exact .inr ⟨body, List.mem_cons_of_mem _ hbody, hfault⟩
    · cases h
  | array item =>
    rw [resolveType] at h
    rcases bind_eq_error_iff.1 h with hitem | ⟨⟨itemType, others⟩, -, h⟩
    · exact (resolveType_fault item hitem).imp_left TypeFault.array
    · cases h

theorem resolveFields_fault {owner : String} {next : Nat} {seen : List String}
    {earlier : List Field} {fault : Located Fault} (fields : List Field)
    (hseen : ∀ n ∈ seen, n ∈ earlier.map (·.name.value))
    (h : resolveFields scope owner next seen fields = .error fault) :
    BodyFault scope.names (earlier ++ fields) fault ∨
      ∃ body ∈ bodiesWithin fields, BodyFault scope.names body fault := by
  cases fields with
  | nil =>
    rw [resolveFields] at h
    cases h
  | cons field rest =>
    obtain ⟨name, isOptional, clause, literal⟩ := field
    have hmem : (⟨name, isOptional, clause, literal⟩ : Field) ∈
        earlier ++ ⟨name, isOptional, clause, literal⟩ :: rest :=
      List.mem_append_right _ List.mem_cons_self
    rw [resolveFields] at h
    split at h
    case isTrue given =>
      cases h
      rw [List.contains_iff_mem] at given
      exact .inl (.duplicate rfl (hseen _ given))
    case isFalse =>
      rcases bind_eq_error_iff.1 h with htype | ⟨⟨type, own⟩, htype, h⟩
      · rcases resolveType_fault clause htype with hfault | ⟨body, hbody, hfault⟩
        · exact .inl (.field hmem (.type hfault))
        · exact .inr ⟨body, List.mem_append_left _ hbody, hfault⟩
      rcases bind_eq_error_iff.1 h with hdefault | ⟨default, -, h⟩
      · exact .inl (.field hmem (fieldFault_of_default htype hdefault))
      rcases bind_eq_error_iff.1 h with hrest | ⟨⟨others, more⟩, -, h⟩
      · have hseen' : ∀ n ∈ name.value :: seen,
            n ∈ (earlier ++ [(⟨name, isOptional, clause, literal⟩ : Field)]).map (·.name.value) := by
          intro n hn
          rw [List.map_append, List.mem_append]
          rcases List.mem_cons.1 hn with rfl | hn
          · exact .inr (List.mem_singleton_self _)
          · exact .inl (hseen n hn)
        rcases resolveFields_fault rest hseen' hrest with hfault | ⟨body, hbody, hfault⟩
        · rw [List.append_assoc] at hfault
          exact .inl hfault
        · exact .inr ⟨body, List.mem_append_right _ hbody, hfault⟩
      · cases h

end

end Scope

end DocumentSchema.Blueprint
