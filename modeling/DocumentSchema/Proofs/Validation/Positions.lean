import DocumentSchema.Proofs.Validation.Outcome
import DocumentSchema.Proofs.Validation.Scalar

namespace DocumentSchema

open Json (Value)

theorem TypeDefinition.field?_isNone_iff {d : TypeDefinition} {key : String} :
    (d.field? key).isNone = true ↔ ∀ f ∈ d.fields, f.name ≠ key := by
  simp [field?]

namespace Validation

variable {s : Schema} {type t : FieldType} {v w : Value} {p : Path}

/-- Declared fields that are present and indices lead from a value with its type to another one. -/
inductive Visited (s : Schema) : FieldType → Value → Path → FieldType → Value → Prop
  | here {type : FieldType} {v : Value} : Visited s type v [] type v
  | member {type t : FieldType} {id : Nat} {members : List (String × Value)} {f : FieldDefinition}
      {v w : Value} {p : Path} (isObject : type.objectId? = some id)
      (declared : f ∈ (s.definition id).fields) (present : members.lookup f.name = some v)
      (rest : Visited s f.type v p t w) :
      Visited s type (.object members) (.field f.name :: p) t w
  | item {item t : FieldType} {items : List Value} {i : Nat} {v w : Value} {p : Path}
      (present : items[i]? = some v) (rest : Visited s item v p t w) :
      Visited s (.array item) (.array items) (.index i :: p) t w

/-- What can be wrong with a value under a type, and where. -/
inductive Violates (s : Schema) (type : FieldType) (v : Value) : Finding → Prop
  | kind {p : Path} {t : FieldType} {w : Value} (visited : Visited s type v p t w)
      (wrong : t.admitsKind w = false) : Violates s type v ⟨p, .typeMismatch t.kind w.kind⟩
  | constraint {p : Path} {scalar : Scalar} {w : Value} {failure : BoundFailure}
      (visited : Visited s type v p (.scalar scalar) w) (kind : isOfKind scalar.kind w = true)
      (missed : scalar.constraints.FirstMissed w failure) :
      Violates s type v ⟨p, .constraint failure.message⟩
  | missing {p : Path} {t : FieldType} {id : Nat} {members : List (String × Value)}
      {f : FieldDefinition} (visited : Visited s type v p t (.object members))
      (isObject : t.objectId? = some id) (declared : f ∈ (s.definition id).fields)
      (required : f.required = true) (absent : members.lookup f.name = none) :
      Violates s type v ⟨p ++ [.field f.name], .missingField⟩
  | unknown {p : Path} {t : FieldType} {id : Nat} {members : List (String × Value)} {key : String}
      (visited : Visited s type v p t (.object members)) (isObject : t.objectId? = some id)
      (closed : (s.definition id).closed = true) (present : key ∈ members.map (·.1))
      (undeclared : ∀ f ∈ (s.definition id).fields, f.name ≠ key) :
      Violates s type v ⟨p ++ [.field key], .unknownField⟩

section Membership

variable {d : TypeDefinition} {members : List (String × Value)} {f : FieldDefinition} {g : Finding}

theorem mem_refusedKeys_iff {keys : List String} {key : String} : key ∈ refusedKeys d keys ↔
    d.closed = true ∧ key ∈ keys ∧ ∀ f ∈ d.fields, f.name ≠ key := by
  rw [← TypeDefinition.field?_isNone_iff]
  unfold refusedKeys
  cases d.closed <;> simp

theorem fieldFindings_of_present {v : Value} (h : members.lookup f.name = some v) :
    fieldFindings (members.map fun m ↦ (m.1, findings s m.2)) f =
      (findings s v f.type).map (.under [.field f.name]) := by
  rw [fieldFindings, Json.lookup_map_snd, h]
  rfl

theorem fieldFindings_of_absent (h : members.lookup f.name = none) :
    fieldFindings (members.map fun m ↦ (m.1, findings s m.2)) f =
      if f.required then [⟨[.field f.name], .missingField⟩] else [] := by
  rw [fieldFindings, Json.lookup_map_snd, h]
  rfl

theorem objectFindings_eq : objectFindings d (members.map fun m ↦ (m.1, findings s m.2)) =
    d.fields.flatMap (fieldFindings (members.map fun m ↦ (m.1, findings s m.2))) ++
      (refusedKeys d (members.map (·.1))).map fun key ↦ ⟨[.field key], .unknownField⟩ := by
  simp [objectFindings, Function.comp_def]

theorem mem_objectFindings_iff :
    g ∈ objectFindings d (members.map fun m ↦ (m.1, findings s m.2)) ↔
      (∃ f ∈ d.fields, g ∈ fieldFindings (members.map fun m ↦ (m.1, findings s m.2)) f) ∨
      ∃ key ∈ refusedKeys d (members.map (·.1)), ⟨[.field key], .unknownField⟩ = g := by
  rw [objectFindings_eq, List.mem_append, List.mem_flatMap, List.mem_map]

theorem findings_object_eq_nil_iff {id : Nat} (isObject : type.objectId? = some id) :
    findings s (.object members) type = [] ↔
      (∀ f ∈ (s.definition id).fields,
        fieldFindings (members.map fun m ↦ (m.1, findings s m.2)) f = []) ∧
      refusedKeys (s.definition id) (members.map (·.1)) = [] := by
  rw [findings_object s isObject, objectFindings_eq, List.append_eq_nil_iff,
    List.flatMap_eq_nil_iff, List.map_eq_nil_iff]

theorem mem_arrayFindings_iff {item : FieldType} {items : List Value} :
    g ∈ arrayFindings item (items.map (findings s)) ↔
      ∃ i v, items[i]? = some v ∧ ∃ f ∈ findings s v item, f.under [.index i] = g := by
  simp only [arrayFindings, List.mem_flatten, List.mem_mapIdx, List.length_map, List.getElem_map]
  constructor
  · rintro ⟨_, ⟨i, hi, rfl⟩, hg⟩
    obtain ⟨f, hf, rfl⟩ := List.mem_map.1 hg
    exact ⟨i, items[i], List.getElem?_eq_getElem hi, f, hf, rfl⟩
  · rintro ⟨i, v, hv, f, hf, rfl⟩
    obtain ⟨hi, rfl⟩ := List.getElem?_eq_some_iff.1 hv
    exact ⟨_, ⟨i, hi, rfl⟩, List.mem_map_of_mem hf⟩

end Membership

theorem Visited.trans {t' : FieldType} {w' : Value} {q : Path} (h : Visited s type v p t w)
    (h' : Visited s t w q t' w') : Visited s type v (p ++ q) t' w' := by
  induction h with
  | here => exact h'
  | member isObject declared present _ ih => exact .member isObject declared present (ih h')
  | item present _ ih => exact .item present (ih h')

theorem Violates.under {g : Finding} (outer : Visited s type v p t w) (h : Violates s t w g) :
    Violates s type v (g.under p) := by
  cases h with
  | kind visited wrong => exact .kind (outer.trans visited) wrong
  | constraint visited kind missed => exact .constraint (outer.trans visited) kind missed
  | missing visited isObject declared required absent =>
    rw [Finding.under, ← List.append_assoc]
    exact .missing (outer.trans visited) isObject declared required absent
  | unknown visited isObject closed present undeclared =>
    rw [Finding.under, ← List.append_assoc]
    exact .unknown (outer.trans visited) isObject closed present undeclared

theorem violates_scalar {scalar : Scalar} {g : Finding} (h : g ∈ findings s v (.scalar scalar)) :
    Violates s (.scalar scalar) v g := by
  rw [findings_scalar] at h
  cases hkind : isOfKind scalar.kind v with
  | false =>
    rw [scalarViolation?_of_not_kind hkind] at h
    obtain rfl : g = _ := by simpa using h
    exact .kind .here hkind
  | true =>
    rw [scalarViolation?_of_kind hkind] at h
    obtain ⟨failure, hfailure, rfl⟩ : ∃ failure, scalar.constraints.failure? v = some failure ∧
        ⟨[], .constraint failure.message⟩ = g := by
      rw [Option.toList_map, List.map_map] at h
      simpa using h
    exact .constraint .here hkind (Constraints.failure?_eq_some_iff.1 hfailure)

theorem violates_of_kind {g : Finding} (wrong : type.admitsKind v = false)
    (h : g ∈ findings s v type) : Violates s type v g := by
  rw [findings_of_kind s wrong, List.mem_singleton] at h
  subst h
  exact .kind .here wrong

theorem violates_object {id : Nat} {members : List (String × Value)} {g : Finding}
    (isObject : type.objectId? = some id)
    (ih : ∀ m ∈ members, ∀ type {g : Finding}, g ∈ findings s m.2 type → Violates s type m.2 g)
    (h : g ∈ findings s (.object members) type) : Violates s type (.object members) g := by
  rw [findings_object s isObject, mem_objectFindings_iff] at h
  rcases h with ⟨f, declared, hg⟩ | ⟨key, hkey, rfl⟩
  · cases present : members.lookup f.name with
    | some v =>
      rw [fieldFindings_of_present present] at hg
      obtain ⟨inner, hinner, rfl⟩ := List.mem_map.1 hg
      have hviolates : Violates s f.type v inner := ih _ (Json.mem_of_lookup present) f.type hinner
      exact hviolates.under (.member isObject declared present .here)
    | none =>
      rw [fieldFindings_of_absent present] at hg
      by_cases required : f.required = true
      · rw [if_pos required, List.mem_singleton] at hg
        subst hg
        exact .missing .here isObject declared required present
      · rw [if_neg required] at hg
        cases hg
  · obtain ⟨closed, present, undeclared⟩ := mem_refusedKeys_iff.1 hkey
    exact .unknown .here isObject closed present undeclared

theorem violates_of_mem_findings {g : Finding} (h : g ∈ findings s v type) :
    Violates s type v g := by
  induction v, type using typedInduction generalizing g with
  | scalar v scalar => exact violates_scalar h
  | wrongKind v type wrong => exact violates_of_kind wrong h
  | array items item ih =>
    rw [findings_array, mem_arrayFindings_iff] at h
    obtain ⟨i, v, present, f, hf, rfl⟩ := h
    exact (ih v (List.mem_of_getElem? present) item hf).under (.item present .here)
  | object members type id isObject ih => exact violates_object isObject ih h

theorem path_ne_nil_of_unknown {g : Finding} (h : g ∈ findings s v type)
    (unknown : g.violation = .unknownField) : g.path ≠ [] := by
  cases violates_of_mem_findings h with
  | unknown => exact List.append_ne_nil_of_right_ne_nil _ (List.cons_ne_nil _ _)
  | kind | constraint | missing => cases unknown

theorem Visited.under_mem_findings (h : Visited s type v p t w) {g : Finding}
    (hg : g ∈ findings s w t) : g.under p ∈ findings s v type := by
  induction h with
  | here => exact hg
  | @member type t id members f v w p isObject declared present rest ih =>
    rw [findings_object s isObject, mem_objectFindings_iff]
    refine .inl ⟨f, declared, ?_⟩
    rw [fieldFindings_of_present present]
    exact List.mem_map.2 ⟨g.under p, ih hg, Finding.under_under _ _ g⟩
  | @item item t items i v w p present rest ih =>
    rw [findings_array, mem_arrayFindings_iff]
    exact ⟨i, v, present, g.under p, ih hg, Finding.under_under _ _ g⟩

theorem Violates.mem_findings {g : Finding} (h : Violates s type v g) : g ∈ findings s v type := by
  cases h with
  | @kind p t w visited wrong =>
    have hg : (⟨[], .typeMismatch t.kind w.kind⟩ : Finding) ∈ findings s w t := by
      rw [findings_of_kind s wrong]
      exact List.mem_singleton_self _
    simpa [Finding.under] using visited.under_mem_findings hg
  | @constraint p scalar w failure visited kind missed =>
    have hg : (⟨[], .constraint failure.message⟩ : Finding) ∈ findings s w (.scalar scalar) := by
      rw [findings_scalar, scalarViolation?_of_kind kind,
        Constraints.failure?_eq_some_iff.2 missed]
      exact List.mem_singleton_self _
    simpa [Finding.under] using visited.under_mem_findings hg
  | @missing p t id members f visited isObject declared required absent =>
    have hg : (⟨[.field f.name], .missingField⟩ : Finding) ∈ findings s (.object members) t := by
      rw [findings_object s isObject, mem_objectFindings_iff]
      refine .inl ⟨f, declared, ?_⟩
      rw [fieldFindings_of_absent absent, if_pos required]
      exact List.mem_singleton_self _
    exact visited.under_mem_findings hg
  | @unknown p t id members key visited isObject closed present undeclared =>
    have hg : (⟨[.field key], .unknownField⟩ : Finding) ∈ findings s (.object members) t := by
      rw [findings_object s isObject, mem_objectFindings_iff]
      exact .inr ⟨key, mem_refusedKeys_iff.2 ⟨closed, present, undeclared⟩, rfl⟩
    exact visited.under_mem_findings hg

theorem mem_findings_iff {g : Finding} : g ∈ findings s v type ↔ Violates s type v g :=
  ⟨violates_of_mem_findings, Violates.mem_findings⟩

end Validation

end DocumentSchema
