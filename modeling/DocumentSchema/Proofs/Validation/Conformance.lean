import DocumentSchema.Proofs.Validation.Positions
import Mathlib.Tactic.ByContra

namespace DocumentSchema.Validation

open Json (Value)

variable {s : Schema} {type : FieldType} {v : Value}

inductive Conforms (s : Schema) : FieldType → Value → Prop
  | scalar {scalar : Scalar} {v : Value} (admits : scalar.Admits v) : Conforms s (.scalar scalar) v
  | array {item : FieldType} {items : List Value} (each : ∀ v ∈ items, Conforms s item v) :
      Conforms s (.array item) (.array items)
  | object {type : FieldType} {id : Nat} {members : List (String × Value)}
      (isObject : type.objectId? = some id)
      (required : ∀ f ∈ (s.definition id).fields, f.required = true → f.name ∈ members.map (·.1))
      (present : ∀ f ∈ (s.definition id).fields, ∀ v, members.lookup f.name = some v →
        Conforms s f.type v)
      (closed : (s.definition id).closed = true → ∀ key ∈ members.map (·.1),
        ∃ f ∈ (s.definition id).fields, f.name = key) :
      Conforms s type (.object members)

/-- The declared fields that the normal form of an object has. -/
def keptFields (d : TypeDefinition) (members : List (String × Value)) : List FieldDefinition :=
  d.fields.filter fun f ↦ (members.lookup f.name).isSome || f.default.isSome

/-- A value and its normal form. The members of an object come in the order of the declarations:
those that are present in normal form, and of the others those with a default. -/
inductive NormalForm (s : Schema) : FieldType → Value → Value → Prop
  | scalar {scalar : Scalar} {v : Value} : NormalForm s (.scalar scalar) v v
  | array {item : FieldType} {items normal : List Value} (length : normal.length = items.length)
      (each : ∀ (i : Nat) (v n : Value), items[i]? = some v → normal[i]? = some n →
        NormalForm s item v n) :
      NormalForm s (.array item) (.array items) (.array normal)
  | object {type : FieldType} {id : Nat} {members normal : List (String × Value)}
      (isObject : type.objectId? = some id)
      (keys : normal.map (·.1) = (keptFields (s.definition id) members).map (·.name))
      (present : ∀ f ∈ (s.definition id).fields, ∀ v n, members.lookup f.name = some v →
        normal.lookup f.name = some n → NormalForm s f.type v n)
      (absent : ∀ f ∈ (s.definition id).fields, members.lookup f.name = none →
        normal.lookup f.name = f.default) :
      NormalForm s type (.object members) (.object normal)

section Conforming

@[simp] theorem conforms_scalar_iff {scalar : Scalar} :
    Conforms s (.scalar scalar) v ↔ scalar.Admits v := by
  refine ⟨fun h ↦ ?_, .scalar⟩
  cases h with
  | scalar admits => exact admits
  | object isObject => cases isObject

@[simp] theorem conforms_array_iff {item : FieldType} {items : List Value} :
    Conforms s (.array item) (.array items) ↔ ∀ v ∈ items, Conforms s item v := by
  refine ⟨fun h ↦ ?_, .array⟩
  cases h with
  | array each => exact each

theorem conforms_object_iff {id : Nat} {members : List (String × Value)}
    (isObject : type.objectId? = some id) : Conforms s type (.object members) ↔
      (∀ f ∈ (s.definition id).fields, f.required = true → f.name ∈ members.map (·.1)) ∧
      (∀ f ∈ (s.definition id).fields, ∀ v, members.lookup f.name = some v → Conforms s f.type v) ∧
      ((s.definition id).closed = true → ∀ key ∈ members.map (·.1),
        ∃ f ∈ (s.definition id).fields, f.name = key) := by
  refine ⟨fun h ↦ ?_, fun ⟨required, present, closed⟩ ↦ .object isObject required present closed⟩
  cases h with
  | scalar => cases isObject
  | @object _ id' _ isObject' required present closed =>
    obtain rfl : id' = id := Option.some.inj (isObject'.symm.trans isObject)
    exact ⟨required, present, closed⟩

theorem Conforms.admitsKind (h : Conforms s type v) : type.admitsKind v = true := by
  cases h with
  | scalar admits => exact admits.1
  | array => rfl
  | @object _ _ members isObject => exact FieldType.admitsKind_object isObject members

theorem not_conforms_of_kind (h : type.admitsKind v = false) : ¬ Conforms s type v := by
  intro hconforms
  rw [hconforms.admitsKind] at h
  cases h

end Conforming

section Findings

variable {members : List (String × Value)}

theorem fieldFindings_eq_nil_iff {f : FieldDefinition}
    (ih : ∀ m ∈ members, ∀ type, findings s m.2 type = [] ↔ Conforms s type m.2) :
    fieldFindings (members.map fun m ↦ (m.1, findings s m.2)) f = [] ↔
      (f.required = true → f.name ∈ members.map (·.1)) ∧
      ∀ v, members.lookup f.name = some v → Conforms s f.type v := by
  cases present : members.lookup f.name with
  | some v =>
    have hmem : f.name ∈ members.map (·.1) := Json.mem_keys_iff.2 ⟨v, present⟩
    rw [fieldFindings_of_present present, List.map_eq_nil_iff, ih _ (Json.mem_of_lookup present)]
    simp [hmem]
  | none =>
    have habsent : f.name ∉ members.map (·.1) := by simp [Json.mem_keys_iff, present]
    rw [fieldFindings_of_absent present]
    cases f.required <;> simp [habsent]

theorem refusedKeys_eq_nil_iff {d : TypeDefinition} {keys : List String} :
    refusedKeys d keys = [] ↔ (d.closed = true → ∀ key ∈ keys, ∃ f ∈ d.fields, f.name = key) := by
  rw [List.eq_nil_iff_forall_not_mem]
  constructor
  · intro h closed key hkey
    by_contra hnone
    refine h key (mem_refusedKeys_iff.2 ⟨closed, hkey, fun f hf hname ↦ ?_⟩)
    exact hnone ⟨f, hf, hname⟩
  · intro h key hkey
    obtain ⟨closed, hkey, undeclared⟩ := mem_refusedKeys_iff.1 hkey
    obtain ⟨f, hf, hname⟩ := h closed key hkey
    exact undeclared f hf hname

theorem arrayFindings_eq_nil_iff {item : FieldType} {items : List Value}
    (ih : ∀ v ∈ items, ∀ type, findings s v type = [] ↔ Conforms s type v) :
    arrayFindings item (items.map (findings s)) = [] ↔ ∀ v ∈ items, Conforms s item v := by
  rw [List.eq_nil_iff_forall_not_mem]
  constructor
  · intro h v hv
    obtain ⟨i, hi⟩ := List.mem_iff_getElem?.1 hv
    refine (ih v hv item).1 (List.eq_nil_iff_forall_not_mem.2 fun g hg ↦ ?_)
    exact h (g.under [.index i]) (mem_arrayFindings_iff.2 ⟨i, v, hi, g, hg, rfl⟩)
  · intro h g hg
    obtain ⟨i, v, hi, f, hf, rfl⟩ := mem_arrayFindings_iff.1 hg
    have hv : v ∈ items := List.mem_of_getElem? hi
    rw [(ih v hv item).2 (h v hv)] at hf
    cases hf

theorem findings_eq_nil_iff (v : Value) (type : FieldType) :
    findings s v type = [] ↔ Conforms s type v := by
  induction v, type using typedInduction with
  | scalar v scalar =>
    rw [findings_scalar, conforms_scalar_iff, ← Scalar.scalarViolation?_eq_none_iff]
    simp
  | wrongKind v type wrong => simp [findings_of_kind s wrong, not_conforms_of_kind wrong]
  | array items item ih => rw [findings_array, arrayFindings_eq_nil_iff ih, conforms_array_iff]
  | object members type id isObject ih =>
    rw [findings_object_eq_nil_iff isObject, refusedKeys_eq_nil_iff, conforms_object_iff isObject]
    simp only [fieldFindings_eq_nil_iff ih]
    constructor
    · rintro ⟨hfields, closed⟩
      exact ⟨fun f hf ↦ (hfields f hf).1, fun f hf ↦ (hfields f hf).2, closed⟩
    · rintro ⟨required, present, closed⟩
      exact ⟨fun f hf ↦ ⟨required f hf, present f hf⟩, closed⟩

end Findings

section Normalizing

variable {members : List (String × Value)}

def normalMember (s : Schema) (members : List (String × Value)) (f : FieldDefinition) : Value :=
  match members.lookup f.name with
  | some v => normalForm s v f.type
  | none => f.default.getD .null

theorem mem_keptFields_iff {d : TypeDefinition} {f : FieldDefinition} :
    f ∈ keptFields d members ↔
      f ∈ d.fields ∧ ((members.lookup f.name).isSome = true ∨ f.default.isSome = true) := by
  rw [keptFields, List.mem_filter, Bool.or_eq_true]

theorem flatMap_normalField (d : TypeDefinition) :
    d.fields.flatMap (normalField (members.map fun m ↦ (m.1, normalForm s m.2))) =
      (keptFields d members).map fun f ↦ (f.name, normalMember s members f) := by
  unfold keptFields
  induction d.fields with
  | nil => rfl
  | cons f rest ih =>
    rw [List.flatMap_cons, ih, normalField, Json.lookup_map_snd, List.filter_cons]
    cases present : members.lookup f.name with
    | some v => simp [normalMember, present]
    | none => cases default : f.default <;> simp [normalMember, present, default]

theorem normalForm_of_object {id : Nat} (isObject : type.objectId? = some id) :
    normalForm s (.object members) type = .object
      ((keptFields (s.definition id) members).map fun f ↦ (f.name, normalMember s members f)) := by
  rw [normalForm_object s isObject, flatMap_normalField]

variable (fields_nodup : ∀ id, ((s.definition id).fields.map (·.name)).Nodup)

include fields_nodup

theorem keptFields_nodup (id : Nat) :
    ((keptFields (s.definition id) members).map (·.name)).Nodup :=
  (fields_nodup id).sublist (List.filter_sublist.map _)

theorem lookup_of_kept {id : Nat} {f : FieldDefinition}
    (kept : f ∈ keptFields (s.definition id) members) :
    ((keptFields (s.definition id) members).map fun f ↦ (f.name, normalMember s members f)).lookup
      f.name = some (normalMember s members f) :=
  Json.lookup_map_of_mem _ _ (keptFields_nodup fields_nodup id) kept

theorem lookup_of_not_kept {id : Nat} {f : FieldDefinition}
    (declared : f ∈ (s.definition id).fields) (notKept : f ∉ keptFields (s.definition id) members) :
    ((keptFields (s.definition id) members).map fun f ↦ (f.name, normalMember s members f)).lookup
      f.name = none := by
  rw [List.lookup_eq_none_iff]
  intro m hm
  obtain ⟨g, hg, rfl⟩ := List.mem_map.1 hm
  have hne : f.name ≠ g.name := by
    intro same
    have hfg : f = g :=
      List.inj_on_of_nodup_map (fields_nodup id) declared (mem_keptFields_iff.1 hg).1 same
    exact notKept (hfg ▸ hg)
  exact bne_iff_ne.2 hne

theorem normalForm_object_spec {id : Nat} (isObject : type.objectId? = some id)
    (ih : ∀ m ∈ members, ∀ type, Conforms s type m.2 →
      NormalForm s type m.2 (normalForm s m.2 type))
    (h : Conforms s type (.object members)) :
    NormalForm s type (.object members) (normalForm s (.object members) type) := by
  obtain ⟨-, conforming, -⟩ := (conforms_object_iff isObject).1 h
  rw [normalForm_of_object isObject]
  refine .object isObject (by simp) (fun f declared v n present hn ↦ ?present)
    (fun f declared absent ↦ ?absent)
  case present =>
    have kept : f ∈ keptFields (s.definition id) members :=
      mem_keptFields_iff.2 ⟨declared, .inl (by rw [present]; rfl)⟩
    rw [lookup_of_kept fields_nodup kept, normalMember, present] at hn
    obtain rfl := Option.some.inj hn
    exact ih _ (Json.mem_of_lookup present) f.type (conforming f declared v present)
  case absent =>
    cases hdefault : f.default with
    | none =>
      refine lookup_of_not_kept fields_nodup declared fun kept ↦ ?_
      simpa [absent, hdefault] using (mem_keptFields_iff.1 kept).2
    | some default =>
      have kept : f ∈ keptFields (s.definition id) members :=
        mem_keptFields_iff.2 ⟨declared, .inr (by rw [hdefault]; rfl)⟩
      rw [lookup_of_kept fields_nodup kept, normalMember, absent, hdefault]
      rfl

theorem normalForm_spec (h : Conforms s type v) : NormalForm s type v (normalForm s v type) := by
  induction v, type using typedInduction with
  | scalar v scalar =>
    rw [normalForm_scalar]
    exact .scalar
  | wrongKind v type wrong => exact absurd h (not_conforms_of_kind wrong)
  | array items item ih =>
    rw [conforms_array_iff] at h
    rw [normalForm_array]
    refine .array (List.length_map _) fun i v n hv hn ↦ ?_
    rw [List.getElem?_map, hv] at hn
    obtain rfl := Option.some.inj hn
    have hmem : v ∈ items := List.mem_of_getElem? hv
    exact ih v hmem item (h v hmem)
  | object members type id isObject ih => exact normalForm_object_spec fields_nodup isObject ih h

theorem NormalForm.eq_normalForm_object {id : Nat} {n : Value} (isObject : type.objectId? = some id)
    (ih : ∀ m ∈ members, ∀ type {n}, NormalForm s type m.2 n → n = normalForm s m.2 type)
    (h : NormalForm s type (.object members) n) : n = normalForm s (.object members) type := by
  rw [normalForm_of_object isObject]
  cases h with
  | scalar => cases isObject
  | @object _ id' _ normal isObject' keys present absent =>
    obtain rfl : id' = id := Option.some.inj (isObject'.symm.trans isObject)
    refine congrArg Value.object (Json.eq_map_of_lookup _ _ (keptFields_nodup fields_nodup _) keys ?_)
    intro f kept n hn
    obtain ⟨declared, hkept⟩ := mem_keptFields_iff.1 kept
    cases hlookup : members.lookup f.name with
    | some v =>
      have hnormal := present f declared v n hlookup hn
      rw [normalMember, hlookup]
      exact ih _ (Json.mem_of_lookup hlookup) f.type hnormal
    | none =>
      rw [absent f declared hlookup] at hn
      rw [normalMember, hlookup, hn]
      rfl

theorem NormalForm.eq_normalForm {n : Value} (h : NormalForm s type v n) :
    n = normalForm s v type := by
  induction v, type using typedInduction generalizing n with
  | scalar v scalar =>
    rw [normalForm_scalar]
    cases h with
    | scalar => rfl
    | object isObject => cases isObject
  | wrongKind v type wrong =>
    cases h with
    | scalar => exact (normalForm_scalar s _ _).symm
    | array => cases wrong
    | @object _ _ members _ isObject =>
      rw [FieldType.admitsKind_object isObject members] at wrong
      cases wrong
  | array items item ih =>
    rw [normalForm_array]
    cases h with
    | @array _ _ normal length each =>
      refine congrArg Value.array (List.ext_getElem (by simp [length]) fun i hi hi' ↦ ?_)
      rw [List.length_map] at hi'
      rw [List.getElem_map]
      exact ih items[i] (List.getElem_mem hi') item
        (each i _ _ (List.getElem?_eq_getElem hi') (List.getElem?_eq_getElem hi))
  | object members type id isObject ih =>
    exact NormalForm.eq_normalForm_object fields_nodup isObject ih h

end Normalizing

end DocumentSchema.Validation
