import DocumentSchema.Proofs.Validation.Scalar

namespace DocumentSchema

open Blueprint (ScalarKind)

variable [PatternEngine]

/-- Constraints that apply to a kind, with lengths of 64 bits and a pattern that its source is read
as. -/
structure Constraints.WellFormed (kind : ScalarKind) (c : Constraints) : Prop where
  numeric : c.minimum.isSome ∨ c.maximum.isSome → kind = .number ∨ kind = .integer
  textual : c.minLength.isSome ∨ c.maxLength.isSome ∨ c.pattern.isSome → kind = .string
  minLength_lt : ∀ m, c.minLength = some m → m < 0x10000000000000000
  maxLength_lt : ∀ m, c.maxLength = some m → m < 0x10000000000000000
  pattern_read : ∀ p, c.pattern = some p → PatternEngine.search p.source = .ok p.isFoundIn

/-- No lower bound exceeds the upper one. -/
structure Constraints.Ordered (c : Constraints) : Prop where
  bounds : ∀ low high, c.minimum = some low → c.maximum = some high → low.order high ≠ .gt
  lengths : ∀ low high, c.minLength = some low → c.maxLength = some high → low ≤ high

structure Scalar.WellFormed (s : Scalar) : Prop where
  constraints : s.constraints.WellFormed s.kind
  ordered : s.constraints.Ordered

/-- Names lead to places below `declared`, types written in place to places from `low` up to
`high`. -/
def FieldType.Within (declared low high : Nat) : FieldType → Prop
  | .scalar s => s.WellFormed
  | .named id => id < declared
  | .inline id => low ≤ id ∧ id < high
  | .array item => item.Within declared low high

theorem FieldType.Within.mono {declared low low' high high' : Nat} {type : FieldType}
    (h : type.Within declared low high) (hlow : low' ≤ low) (hhigh : high ≤ high') :
    type.Within declared low' high' := by
  induction type with
  | scalar s => exact h
  | named id => exact h
  | inline id =>
    obtain ⟨hid, hid'⟩ : low ≤ id ∧ id < high := h
    exact ⟨Nat.le_trans hlow hid, Nat.lt_of_lt_of_le hid' hhigh⟩
  | array item ih => exact ih h

structure FieldDefinition.WellFormed (declared low high : Nat) (f : FieldDefinition) : Prop where
  type : f.type.Within declared low high
  default : ∀ v, f.default = some v →
    f.required = false ∧ ∃ scalar, f.type = .scalar scalar ∧ scalar.Admits v

structure TypeDefinition.WellFormed (declared low high : Nat) (d : TypeDefinition) : Prop where
  names_nodup : (d.fields.map (·.name)).Nodup
  fields : ∀ f ∈ d.fields, f.WellFormed declared low high

theorem TypeDefinition.WellFormed.mono {declared low low' high high' : Nat} {d : TypeDefinition}
    (h : d.WellFormed declared low high) (hlow : low' ≤ low) (hhigh : high ≤ high') :
    d.WellFormed declared low' high' where
  names_nodup := h.names_nodup
  fields f hf := ⟨(h.fields f hf).type.mono hlow hhigh, (h.fields f hf).default⟩

namespace Schema

structure WellFormed (s : Schema) : Prop where
  names_nodup : s.typeNames.Nodup
  declared : ∀ (id : Nat) (name : String), s.typeNames[id]? = some name →
    ∃ d : TypeDefinition, s.types[id]? = some d ∧ d.name = name ∧ d.anonymous = false
  inPlace : ∀ (id : Nat) (d : TypeDefinition), s.types[id]? = some d →
    s.typeNames.length ≤ id → d.anonymous = true
  types : ∀ (id : Nat) (d : TypeDefinition), s.types[id]? = some d →
    d.WellFormed s.typeNames.length (max s.typeNames.length (id + 1)) s.types.length
  roots : ∀ (name : String) (id : Nat), (name, id) ∈ s.roots → s.typeNames[id]? = some name

variable {s : Schema}

theorem WellFormed.definition (hs : s.WellFormed) (id : Nat) :
    (s.definition id).WellFormed s.typeNames.length (max s.typeNames.length (id + 1))
      s.types.length := by
  cases hd : s.types[id]? with
  | none =>
    rw [Schema.definition, hd]
    constructor <;> simp [TypeDefinition.empty]
  | some d =>
    rw [Schema.definition, hd]
    exact hs.types id d hd

theorem WellFormed.fields_nodup (hs : s.WellFormed) (id : Nat) :
    ((s.definition id).fields.map (·.name)).Nodup := (hs.definition id).names_nodup

theorem WellFormed.typeNames_getElem? (hs : s.WellFormed) {id : Nat}
    (hid : id < s.typeNames.length) : s.typeNames[id]? = some (s.definition id).name ∧
      (s.definition id).anonymous = false := by
  obtain ⟨d, hd, hname, hanonymous⟩ := hs.declared id _ (List.getElem?_eq_getElem hid)
  rw [Schema.definition, hd, List.getElem?_eq_getElem hid, ← hname]
  exact ⟨rfl, hanonymous⟩

theorem WellFormed.lt_of_not_anonymous (hs : s.WellFormed) {id : Nat} (hid : id < s.types.length)
    (h : (s.definition id).anonymous = false) : id < s.typeNames.length := by
  refine Nat.lt_of_not_le fun hle ↦ ?_
  have hanonymous := hs.inPlace id _ (List.getElem?_eq_getElem hid) hle
  rw [Schema.definition, List.getElem?_eq_getElem hid, Option.getD_some, hanonymous] at h
  cases h

theorem WellFormed.eq_of_name_eq (hs : s.WellFormed) {id id' : Nat}
    (hid : id < s.typeNames.length) (hid' : id' < s.typeNames.length)
    (hname : (s.definition id).name = (s.definition id').name) : id = id' := by
  refine (List.getElem?_inj hid hs.names_nodup).1 ?_
  rw [(hs.typeNames_getElem? hid).1, (hs.typeNames_getElem? hid').1, hname]

omit [PatternEngine] in
theorem typeNames_length_le : s.typeNames.length ≤ s.types.length := by
  rw [typeNames, List.length_map]
  exact List.length_filter_le _ _

end Schema

end DocumentSchema
