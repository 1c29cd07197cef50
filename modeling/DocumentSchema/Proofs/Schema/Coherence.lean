import DocumentSchema.Pattern.Engine
import DocumentSchema.Proofs.Blueprint.Ownership
import DocumentSchema.Proofs.Json.Members
import DocumentSchema.Schema.Reachable
import DocumentSchema.Validation.Normalization

namespace DocumentSchema

open Validation

namespace FieldType

/-- The place of the type that a field names, under any number of brackets. -/
def named? : FieldType → Option Nat
  | .named id => some id
  | .array item => item.named?
  | .scalar _ | .inline _ => none

def scalar? : FieldType → Option Scalar
  | .scalar s => some s
  | .array item => item.scalar?
  | .named _ | .inline _ => none

variable {declared low high id : Nat} {type : FieldType}

theorem target?_eq_some_iff :
    type.target? = some id ↔ type.named? = some id ∨ type.inline? = some id := by
  induction type with
  | array item ih => exact ih
  | scalar | named | inline => simp [target?, named?, inline?]

variable [PatternEngine]

theorem Within.named_lt (h : type.Within declared low high) (hid : type.named? = some id) :
    id < declared := by
  induction type with
  | named place =>
    obtain rfl := Option.some.inj hid
    exact h
  | array item ih => exact ih h hid
  | scalar | inline => cases hid

theorem Within.inline_bounds (h : type.Within declared low high) (hid : type.inline? = some id) :
    low ≤ id ∧ id < high := by
  induction type with
  | inline place =>
    obtain rfl := Option.some.inj hid
    exact h
  | array item ih => exact ih h hid
  | scalar | named => cases hid

theorem Within.scalar_wellFormed (h : type.Within declared low high) {scalar : Scalar}
    (hscalar : type.scalar? = some scalar) : scalar.WellFormed := by
  induction type with
  | scalar s =>
    obtain rfl := Option.some.inj hscalar
    exact h
  | array item ih => exact ih h hscalar
  | named | inline => cases hscalar

end FieldType

namespace Schema

variable [PatternEngine]

/-- A schema whose parts fit together. The list of types is the arena; `idOf?` looks names up. -/
structure Coherent (s : Schema) : Prop where
  target_lt : ∀ owner, ∀ f ∈ (s.definition owner).fields, ∀ id, f.type.target? = some id →
    id < s.types.length
  named_declared : ∀ owner, ∀ f ∈ (s.definition owner).fields, ∀ id, f.type.named? = some id →
    (s.definition id).anonymous = false
  roots : ∀ root ∈ s.roots, root.2 < s.types.length ∧ (s.definition root.2).anonymous = false ∧
    (s.definition root.2).name = root.1
  names_nodup : s.typeNames.Nodup
  idOf? : ∀ name id, s.idOf? name = some id ↔
    id < s.types.length ∧ (s.definition id).anonymous = false ∧ (s.definition id).name = name
  inline_later : ∀ owner, ∀ f ∈ (s.definition owner).fields, ∀ id, f.type.inline? = some id →
    (s.definition id).anonymous = true ∧ owner < id
  inline_once : ∀ id < s.types.length, (s.definition id).anonymous = true →
    ∃! field : Nat × FieldDefinition, s.Owns field.1 field.2 id
  field? : ∀ id name f, (s.definition id).field? name = some f ↔
    f ∈ (s.definition id).fields ∧ f.name = name
  default : ∀ id, ∀ f ∈ (s.definition id).fields, ∀ v, f.default = some v → f.required = false ∧
    ∃ scalar, f.type = .scalar scalar ∧ normalizeScalar scalar v = .accept v
  scalars : ∀ id, ∀ f ∈ (s.definition id).fields, ∀ scalar, f.type.scalar? = some scalar →
    scalar.WellFormed

variable {s : Schema} {owner id : Nat} {f : FieldDefinition} {name : String}

theorem WellFormed.anonymous_of_le (hs : s.WellFormed) (hle : s.typeNames.length ≤ id) :
    (s.definition id).anonymous = true := by
  cases hd : s.types[id]? with
  | none =>
    rw [Schema.definition, hd]
    rfl
  | some d =>
    rw [definition_of_getElem? hd]
    exact hs.inPlace id d hd hle

theorem WellFormed.declared_iff (hs : s.WellFormed) :
    (s.definition id).anonymous = false ↔ id < s.typeNames.length := by
  refine ⟨fun h ↦ Nat.lt_of_not_le fun hle ↦ ?_, fun h ↦ (hs.typeNames_getElem? h).2⟩
  rw [hs.anonymous_of_le hle] at h
  cases h

theorem WellFormed.target_lt (hs : s.WellFormed) (hf : f ∈ (s.definition owner).fields)
    (hid : f.type.target? = some id) : id < s.types.length := by
  have hwithin := ((hs.definition owner).fields f hf).type
  rcases FieldType.target?_eq_some_iff.1 hid with hnamed | hinline
  · exact Nat.lt_of_lt_of_le (hwithin.named_lt hnamed) typeNames_length_le
  · exact (hwithin.inline_bounds hinline).2

theorem WellFormed.idOf?_eq_some_iff (hs : s.WellFormed) : s.idOf? name = some id ↔
    id < s.types.length ∧ (s.definition id).anonymous = false ∧ (s.definition id).name = name := by
  have hdefinition {place : Nat} (hlt : place < s.types.length) :
      s.definition place = s.types[place] := definition_of_getElem? (List.getElem?_eq_getElem hlt)
  rw [idOf?, List.findIdx?_eq_some_iff_getElem]
  constructor
  · rintro ⟨hlt, hfound, -⟩
    rw [hdefinition hlt]
    simpa [hlt] using hfound
  · rintro ⟨hlt, hdeclared, hname⟩
    refine ⟨hlt, by simp [← hdefinition hlt, hdeclared, hname], fun place hbefore hfound ↦ ?_⟩
    -- An earlier type of this name would be the same one.
    have hlt' : place < s.types.length := Nat.lt_trans hbefore hlt
    rw [← hdefinition hlt', Bool.and_eq_true, Bool.not_eq_true', decide_eq_true_eq] at hfound
    have hsame := hs.eq_of_name_eq (hs.declared_iff.1 hfound.1) (hs.declared_iff.1 hdeclared)
      (hfound.2.trans hname.symm)
    exact absurd hsame (Nat.ne_of_lt hbefore)

theorem WellFormed.field?_eq_some_iff (hs : s.WellFormed) :
    (s.definition id).field? name = some f ↔ f ∈ (s.definition id).fields ∧ f.name = name := by
  constructor
  · intro h
    exact ⟨List.mem_of_find?_eq_some h, by simpa using List.find?_some h⟩
  · rintro ⟨hf, rfl⟩
    exact Json.find?_of_mem (·.name) (hs.fields_nodup id) hf

theorem coherent_of_wellFormed (hs : s.WellFormed) (owned : s.OwnedOnce) : s.Coherent where
  target_lt owner f hf id hid := hs.target_lt hf hid
  named_declared owner f hf id hid :=
    hs.declared_iff.2 (((hs.definition owner).fields f hf).type.named_lt hid)
  roots root hroot := by
    obtain ⟨hlt, hname⟩ := List.getElem?_eq_some_iff.1 (hs.roots root.1 root.2 hroot)
    have hdefinition := (hs.typeNames_getElem? hlt).1
    rw [List.getElem?_eq_getElem hlt, hname] at hdefinition
    exact ⟨Nat.lt_of_lt_of_le hlt typeNames_length_le, hs.declared_iff.2 hlt,
      (Option.some.inj hdefinition).symm⟩
  names_nodup := hs.names_nodup
  idOf? name id := hs.idOf?_eq_some_iff
  inline_later owner f hf id hid := by
    have hwithin := ((hs.definition owner).fields f hf).type
    obtain ⟨hlow, -⟩ := hwithin.inline_bounds hid
    exact ⟨hs.anonymous_of_le (Nat.le_trans (Nat.le_max_left _ _) hlow),
      Nat.le_trans (Nat.le_max_right _ _) hlow⟩
  inline_once id hid hanonymous := by
    have hle : s.typeNames.length ≤ id := by
      refine Nat.le_of_not_lt fun hlt ↦ ?_
      rw [hs.declared_iff.2 hlt] at hanonymous
      cases hanonymous
    obtain ⟨owner, f, hf⟩ := owned.exists_owner hle hid
    refine ⟨(owner, f), hf, fun field hfield ↦ ?_⟩
    obtain ⟨howner, hf⟩ := owned.owner_unique hfield hf
    exact Prod.ext howner hf
  field? id name f := hs.field?_eq_some_iff
  default id f hf v hv := by
    obtain ⟨hrequired, scalar, htype, hadmits⟩ := ((hs.definition id).fields f hf).default v hv
    refine ⟨hrequired, scalar, htype, ?_⟩
    rw [normalizeScalar, Scalar.scalarViolation?_eq_none_iff.2 hadmits]
  scalars id f hf scalar hscalar := ((hs.definition id).fields f hf).type.scalar_wellFormed hscalar

end Schema

namespace Blueprint

variable {openByDefault : Bool} {source : Source} {s : Schema}

/-- In a compiled schema everything leads where it should. -/
theorem compile_coherent [PatternEngine] (compiled : compile openByDefault source = .ok s) :
    s.Coherent := by
  obtain ⟨items, -, hresolved⟩ := compile_eq_ok compiled
  exact Schema.coherent_of_wellFormed (compile_wellFormed compiled) (resolve_ownedOnce hresolved)

theorem compile_coherent_partsBlueprint :
    compile false partsBlueprint = .ok partsSchema ∧ partsSchema.Coherent :=
  ⟨compile_partsBlueprint, compile_coherent compile_partsBlueprint⟩

end Blueprint

end DocumentSchema
