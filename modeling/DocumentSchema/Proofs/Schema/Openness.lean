import DocumentSchema.Proofs.Validation.Idempotence
import Mathlib.Data.List.Forall2

namespace DocumentSchema

open Json (Value)
open Validation

/-- Types that differ in whether they are closed at most. -/
structure TypeDefinition.Reopened (d d' : TypeDefinition) : Prop where
  name : d.name = d'.name
  fields : d.fields = d'.fields
  anonymous : d.anonymous = d'.anonymous

structure Schema.Reopened (s t : Schema) : Prop where
  origin : s.origin = t.origin
  types : List.Forall₂ TypeDefinition.Reopened s.types t.types
  roots : s.roots = t.roots

namespace Schema.Reopened

variable {s t : Schema}

theorem definition (h : s.Reopened t) (id : Nat) : (s.definition id).Reopened (t.definition id) := by
  unfold Schema.definition
  by_cases hid : id < s.types.length
  · have hid' : id < t.types.length := h.types.length_eq ▸ hid
    rw [List.getElem?_eq_getElem hid, List.getElem?_eq_getElem hid']
    exact h.types.get hid hid'
  · have hid' : ¬ id < t.types.length := h.types.length_eq ▸ hid
    rw [List.getElem?_eq_none (Nat.le_of_not_lt hid), List.getElem?_eq_none (Nat.le_of_not_lt hid')]
    exact ⟨rfl, rfl, rfl⟩

theorem rootNames_eq (h : s.Reopened t) : s.rootNames = t.rootNames := by
  rw [rootNames, rootNames, h.roots]

theorem rootId_eq (h : s.Reopened t) (name : String) : s.rootId name = t.rootId name := by
  rw [rootId, rootId, h.roots, h.origin, h.rootNames_eq]

theorem normalForm_eq (h : s.Reopened t) (v : Value) (type : FieldType) :
    normalForm s v type = normalForm t v type := by
  induction v, type using typedInduction with
  | scalar v scalar => rw [normalForm_scalar, normalForm_scalar]
  | wrongKind v type wrong => rw [normalForm_of_kind s wrong, normalForm_of_kind t wrong]
  | array items item ih =>
    rw [normalForm_array, normalForm_array]
    exact congrArg Value.array (List.map_congr_left fun v hv ↦ ih v hv item)
  | object members type id isObject ih =>
    have hmember (f : FieldDefinition) : normalMember s members f = normalMember t members f := by
      unfold normalMember
      cases hlookup : members.lookup f.name with
      | some v => exact ih _ (Json.mem_of_lookup hlookup) f.type
      | none => rfl
    rw [normalForm_of_object isObject, normalForm_of_object isObject, keptFields, keptFields,
      (h.definition id).fields]
    exact congrArg Value.object (List.map_congr_left fun f _ ↦ by rw [hmember])

end Schema.Reopened

namespace Validation

variable {s t : Schema} {type : FieldType} {v : Value}

theorem Stable.members (fields_nodup : ∀ id, ((s.definition id).fields.map (·.name)).Nodup)
    {id : Nat} {members : List (String × Value)} (isObject : type.objectId? = some id)
    (h : Stable s type (.object members)) :
    (∀ key ∈ members.map (·.1), ∃ f ∈ (s.definition id).fields, f.name = key) ∧
      ∀ f ∈ (s.definition id).fields, ∀ w, members.lookup f.name = some w → Stable s f.type w := by
  obtain ⟨-, present, -⟩ := (conforms_object_iff isObject).1 h.conforms
  have hfixed := h.fixed
  rw [normalForm_of_object isObject] at hfixed
  have hmembers := Value.object.inj hfixed
  constructor
  · intro key hkey
    rw [← hmembers, List.map_map] at hkey
    obtain ⟨f, kept, rfl⟩ := List.mem_map.1 hkey
    exact ⟨f, (mem_keptFields_iff.1 kept).1, rfl⟩
  · intro f declared w hw
    have kept : f ∈ keptFields (s.definition id) members :=
      mem_keptFields_iff.2 ⟨declared, .inl (Option.isSome_of_eq_some hw)⟩
    have hlookup := lookup_of_kept fields_nodup kept
    rw [hmembers, normalMember, hw] at hlookup
    exact ⟨present f declared w hw, (Option.some.inj hlookup).symm⟩

theorem Stable.reopened (fields_nodup : ∀ id, ((s.definition id).fields.map (·.name)).Nodup)
    (reopened : s.Reopened t) (h : Stable s type v) : Stable t type v := by
  refine ⟨?_, (reopened.normalForm_eq v type).symm.trans h.fixed⟩
  induction v, type using typedInduction with
  | scalar v scalar => exact conforms_scalar_iff.2 (conforms_scalar_iff.1 h.conforms)
  | wrongKind v type wrong => exact absurd h.conforms (not_conforms_of_kind wrong)
  | array items item ih =>
    have hfixed := h.fixed
    rw [normalForm_array] at hfixed
    have hitems : items.map (normalForm s · item) = items.map id :=
      (Value.array.inj hfixed).trans (List.map_id _).symm
    refine conforms_array_iff.2 fun v hv ↦ ih v hv item ?_
    exact ⟨conforms_array_iff.1 h.conforms v hv, List.map_inj_left.1 hitems v hv⟩
  | object members type id isObject ih =>
    obtain ⟨required, -, -⟩ := (conforms_object_iff isObject).1 h.conforms
    obtain ⟨declared, stable⟩ := h.members fields_nodup isObject
    rw [(reopened.definition id).fields] at required declared stable
    refine .object isObject required (fun f hf w hw ↦ ?_) fun _ ↦ declared
    exact ih _ (Json.mem_of_lookup hw) f.type (stable f hf w hw)

end Validation

end DocumentSchema
