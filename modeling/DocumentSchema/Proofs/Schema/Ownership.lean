import DocumentSchema.Proofs.Schema.WellFormed
import DocumentSchema.Schema.Outline
import Mathlib.Data.List.Nodup

namespace DocumentSchema

def TypeDefinition.inlinePlaces (d : TypeDefinition) : List Nat := d.fields.filterMap (·.type.inline?)

theorem TypeDefinition.mem_inlinePlaces_iff {d : TypeDefinition} {id : Nat} :
    id ∈ d.inlinePlaces ↔ ∃ f ∈ d.fields, f.type.inline? = some id := List.mem_filterMap

namespace Schema

/-- The type in a place is written in a field of the type in another place. -/
structure Owns (s : Schema) (owner : Nat) (f : FieldDefinition) (id : Nat) : Prop where
  field : f ∈ (s.definition owner).fields
  inline : f.type.inline? = some id

/-- The fields lead to each type that is written in place once. -/
def OwnedOnce (s : Schema) : Prop :=
  (s.types.flatMap (·.inlinePlaces)).Perm
    (List.range' s.typeNames.length (s.types.length - s.typeNames.length))

variable {s : Schema} {owner owner' id : Nat} {f f' : FieldDefinition}

theorem definition_of_getElem? {d : TypeDefinition} (h : s.types[id]? = some d) :
    s.definition id = d := by
  rw [definition, h, Option.getD_some]

theorem Owns.exists_getElem? (h : s.Owns owner f id) :
    ∃ d, s.types[owner]? = some d ∧ f ∈ d.fields := by
  cases hd : s.types[owner]? with
  | none =>
    have hfield := h.field
    rw [definition, hd] at hfield
    cases hfield
  | some d => exact ⟨d, rfl, definition_of_getElem? hd ▸ h.field⟩

theorem OwnedOnce.exists_owner (hs : s.OwnedOnce) (hle : s.typeNames.length ≤ id)
    (hlt : id < s.types.length) : ∃ owner f, s.Owns owner f id := by
  have hmem : id ∈ s.types.flatMap (·.inlinePlaces) := by
    rw [hs.mem_iff, List.mem_range'_1]
    omega
  obtain ⟨d, hd, hid⟩ := List.mem_flatMap.1 hmem
  obtain ⟨f, hf, hinline⟩ := TypeDefinition.mem_inlinePlaces_iff.1 hid
  obtain ⟨owner, howner⟩ := List.mem_iff_getElem?.1 hd
  exact ⟨owner, f, definition_of_getElem? howner ▸ hf, hinline⟩

theorem field_unique {d : TypeDefinition} (hnodup : d.inlinePlaces.Nodup) (hf : f ∈ d.fields)
    (hf' : f' ∈ d.fields) (h : f.type.inline? = some id) (h' : f'.type.inline? = some id) :
    f = f' := by
  have apart := List.pairwise_iff_getElem.1 (List.pairwise_filterMap.1 hnodup)
  obtain ⟨i, hi, rfl⟩ := List.getElem_of_mem hf
  obtain ⟨j, hj, rfl⟩ := List.getElem_of_mem hf'
  rcases Nat.lt_trichotomy i j with hbefore | rfl | hafter
  · exact absurd rfl (apart i j hi hj hbefore id h id h')
  · rfl
  · exact absurd rfl (apart j i hj hi hafter id h' id h)

theorem OwnedOnce.owner_unique (hs : s.OwnedOnce) (h : s.Owns owner f id)
    (h' : s.Owns owner' f' id) : owner = owner' ∧ f = f' := by
  have hnodup : (s.types.flatMap (·.inlinePlaces)).Nodup := hs.nodup_iff.2 List.nodup_range'
  obtain ⟨hnodups, hdisjoint⟩ := List.nodup_flatMap.1 hnodup
  obtain ⟨d, hd, hf⟩ := h.exists_getElem?
  obtain ⟨d', hd', hf'⟩ := h'.exists_getElem?
  have hmem := TypeDefinition.mem_inlinePlaces_iff.2 ⟨f, hf, h.inline⟩
  have hmem' := TypeDefinition.mem_inlinePlaces_iff.2 ⟨f', hf', h'.inline⟩
  obtain ⟨hlt, rfl⟩ := List.getElem?_eq_some_iff.1 hd
  obtain ⟨hlt', rfl⟩ := List.getElem?_eq_some_iff.1 hd'
  have apart := List.pairwise_iff_getElem.1 hdisjoint
  rcases Nat.lt_trichotomy owner owner' with hbefore | rfl | hafter
  · exact absurd hmem' (apart _ _ hlt hlt' hbefore hmem)
  · exact ⟨rfl, field_unique (hnodups _ (List.getElem_mem hlt)) hf hf' h.inline h'.inline⟩
  · exact absurd hmem (apart _ _ hlt' hlt hafter hmem')

end Schema

end DocumentSchema
