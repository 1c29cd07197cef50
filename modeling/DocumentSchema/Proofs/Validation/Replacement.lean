import DocumentSchema.Proofs.Json.DistinctKeys
import DocumentSchema.Proofs.Validation.Positions
import Mathlib.Data.List.Forall2

namespace DocumentSchema.Validation

open Json (Value modifyMember)

/-- Keys and indices lead from a value to a part of it. -/
inductive PartAt (w : Value) : Path → Value → Prop
  | here : PartAt w [] w
  | member {key : String} {members : List (String × Value)} {u : Value} {p : Path}
      (present : members.lookup key = some u) (rest : PartAt w p u) :
      PartAt w (.field key :: p) (.object members)
  | item {i : Nat} {items : List Value} {u : Value} {p : Path}
      (present : items[i]? = some u) (rest : PartAt w p u) :
      PartAt w (.index i :: p) (.array items)

/-- A value with a new part where a path leads to. -/
def replaceAt (new : Value) : Path → Value → Value
  | [], _ => new
  | .field key :: p, .object members => .object (modifyMember key (replaceAt new p) members)
  | .index i :: p, .array items => .array (items.modify i (replaceAt new p))
  | _ :: _, v => v

theorem PartAt.distinctKeys {v w : Value} {p : Path} (h : PartAt w p v) (distinct : v.DistinctKeys) :
    w.DistinctKeys := by
  induction h with
  | here => exact distinct
  | member present _ ih => exact ih (distinct.of_mem (Json.mem_of_lookup present))
  | item present _ ih => exact ih (distinct.of_mem_items (List.mem_of_getElem? present))

theorem modifyMember_distinctKeys {members : List (String × Value)} {change : Value → Value}
    (h : (Value.object members).DistinctKeys)
    (changed : ∀ v : Value, v.DistinctKeys → (change v).DistinctKeys) (key : String) :
    (Value.object (modifyMember key change members)).DistinctKeys := by
  refine .object ?_ fun m hm ↦ ?_
  · rw [Json.keys_modifyMember]
    exact h.keys_nodup
  · obtain ⟨m', hm', rfl | rfl⟩ := Json.mem_modifyMember hm
    · exact h.of_mem hm'
    · exact changed m'.2 (h.of_mem hm')

theorem modify_distinctKeys {items : List Value} {change : Value → Value}
    (h : (Value.array items).DistinctKeys)
    (changed : ∀ v : Value, v.DistinctKeys → (change v).DistinctKeys) (i : Nat) :
    (Value.array (items.modify i change)).DistinctKeys := by
  refine .array fun u hu ↦ ?_
  obtain ⟨j, hj, rfl⟩ := List.getElem_of_mem hu
  rw [List.length_modify] at hj
  have hitem : items[j].DistinctKeys := h.of_mem_items (List.getElem_mem hj)
  rw [List.getElem_modify]
  split
  · exact changed _ hitem
  · exact hitem

theorem replaceAt_distinctKeys {new : Value} (hnew : new.DistinctKeys) (p : Path) (v : Value)
    (distinct : v.DistinctKeys) : (replaceAt new p v).DistinctKeys := by
  induction p generalizing v with
  | nil => exact hnew
  | cons segment p ih =>
    cases segment with
    | field key =>
      cases v with
      | object members => exact modifyMember_distinctKeys distinct ih key
      | null | bool | number | string | array => exact distinct
    | index i =>
      cases v with
      | array items => exact modify_distinctKeys distinct ih i
      | null | bool | number | string | object => exact distinct

/-- A relation between lists of findings that may be checked part by part. -/
structure Local (R : List Finding → List Finding → Prop) : Prop where
  refl : ∀ found, R found found
  append : ∀ {found found' more more'}, R found found' → R more more' →
    R (found ++ more) (found' ++ more')
  under : ∀ {found found'} (p : Path), R found found' →
    R (found.map (.under p)) (found'.map (.under p))

theorem local_eq : Local Eq where
  refl _ := rfl
  append h h' := by rw [h, h']
  under p h := by rw [h]

/-- Two values that come to the same under a type. -/
structure ComesToSame (R : List Finding → List Finding → Prop) (s : Schema) (type : FieldType)
    (v v' : Value) : Prop where
  findings : R (findings s v type) (Validation.findings s v' type)
  normalForm : Validation.findings s v type = [] →
    normalForm s v type = Validation.normalForm s v' type

variable {R : List Finding → List Finding → Prop} {s : Schema} {type t : FieldType}
  {v v' w w' new : Value} {p : Path}

theorem Local.flatten (hR : Local R) {ls ls' : List (List Finding)} (h : List.Forall₂ R ls ls') :
    R ls.flatten ls'.flatten := by
  induction h with
  | nil => exact hR.refl []
  | cons first _ ih =>
    rw [List.flatten_cons, List.flatten_cons]
    exact hR.append first ih

theorem Local.flatMap (hR : Local R) {α : Type} {l : List α} {f g : α → List Finding}
    (h : ∀ a ∈ l, R (f a) (g a)) : R (l.flatMap f) (l.flatMap g) := by
  rw [List.flatMap_def, List.flatMap_def]
  refine hR.flatten ?_
  rw [List.forall₂_map_left_iff, List.forall₂_map_right_iff, List.forall₂_same]
  exact h

theorem ComesToSame.refl (hR : Local R) (v : Value) : ComesToSame R s type v v :=
  ⟨hR.refl _, fun _ ↦ rfl⟩

theorem comesToSame_of_kind (hR : Local R) (wrong : type.admitsKind v = false)
    (wrong' : type.admitsKind v' = false) (kind : v.kind = v'.kind) :
    ComesToSame R s type v v' := by
  have hfindings : findings s v type = findings s v' type := by
    rw [findings_of_kind s wrong, findings_of_kind s wrong', kind]
  refine ⟨hfindings ▸ hR.refl _, fun hnone ↦ ?_⟩
  rw [findings_of_kind s wrong] at hnone
  cases hnone

section Object

variable {members members' : List (String × Value)} {id : Nat} {f : FieldDefinition}

theorem objectId?_or_wrongKind (type : FieldType) :
    (∃ id, type.objectId? = some id) ∨ ∀ members, type.admitsKind (.object members) = false := by
  cases type with
  | named id | inline id => exact .inl ⟨id, rfl⟩
  | array => exact .inr fun _ ↦ rfl
  | scalar scalar =>
    refine .inr fun _ ↦ ?_
    cases h : scalar.kind <;> simp [FieldType.admitsKind, isOfKind, h]

structure FieldComesToSame (R : List Finding → List Finding → Prop) (s : Schema)
    (members members' : List (String × Value)) (f : FieldDefinition) : Prop where
  findings : R (fieldFindings (members.map fun m ↦ (m.1, findings s m.2)) f)
    (fieldFindings (members'.map fun m ↦ (m.1, Validation.findings s m.2)) f)
  normalField : fieldFindings (members.map fun m ↦ (m.1, Validation.findings s m.2)) f = [] →
    normalField (members.map fun m ↦ (m.1, normalForm s m.2)) f =
      Validation.normalField (members'.map fun m ↦ (m.1, normalForm s m.2)) f

theorem fieldComesToSame_of_absent (hR : Local R) (absent : members.lookup f.name = none)
    (absent' : members'.lookup f.name = none) : FieldComesToSame R s members members' f := by
  constructor
  case findings =>
    rw [fieldFindings_of_absent absent, fieldFindings_of_absent absent']
    exact hR.refl _
  case normalField =>
    intro _
    rw [normalField, normalField, Json.lookup_map_snd, Json.lookup_map_snd, absent, absent']

theorem fieldComesToSame_of_present (hR : Local R) (present : members.lookup f.name = some w)
    (present' : members'.lookup f.name = some w') (same : ComesToSame R s f.type w w') :
    FieldComesToSame R s members members' f := by
  constructor
  case findings =>
    rw [fieldFindings_of_present present, fieldFindings_of_present present']
    exact hR.under _ same.findings
  case normalField =>
    intro hnone
    rw [fieldFindings_of_present present, List.map_eq_nil_iff] at hnone
    rw [normalField, normalField, Json.lookup_map_snd, Json.lookup_map_snd, present, present']
    simp [same.normalForm hnone]

theorem fieldComesToSame_of_lookup_eq (hR : Local R)
    (h : members.lookup f.name = members'.lookup f.name) :
    FieldComesToSame R s members members' f := by
  cases hlookup : members.lookup f.name with
  | none => exact fieldComesToSame_of_absent hR hlookup (h ▸ hlookup)
  | some v => exact fieldComesToSame_of_present hR hlookup (h ▸ hlookup) (.refl hR v)

theorem comesToSame_object (hR : Local R) (isObject : type.objectId? = some id)
    (fields : ∀ f ∈ (s.definition id).fields, FieldComesToSame R s members members' f)
    (refused : R
      ((refusedKeys (s.definition id) (members.map (·.1))).map (⟨[.field ·], .unknownField⟩))
      ((refusedKeys (s.definition id) (members'.map (·.1))).map (⟨[.field ·], .unknownField⟩))) :
    ComesToSame R s type (.object members) (.object members') := by
  constructor
  case findings =>
    rw [findings_object s isObject, findings_object s isObject, objectFindings_eq,
      objectFindings_eq]
    exact hR.append (hR.flatMap fun f hf ↦ (fields f hf).findings) refused
  case normalForm =>
    intro hnone
    rw [findings_object_eq_nil_iff isObject] at hnone
    rw [normalForm_object s isObject, normalForm_object s isObject, List.flatMap_def,
      List.flatMap_def]
    have hfields : ∀ f ∈ (s.definition id).fields, _ := fun f hf ↦
      (fields f hf).normalField (hnone.1 f hf)
    rw [List.map_congr_left hfields]

theorem comesToSame_modifyMember (hR : Local R) (isObject : type.objectId? = some id) {key : String}
    {change : Value → Value} (present : members.lookup key = some w)
    (same : ∀ f ∈ (s.definition id).fields, f.name = key → ComesToSame R s f.type w (change w)) :
    ComesToSame R s type (.object members) (.object (modifyMember key change members)) := by
  refine comesToSame_object hR isObject (fun f hf ↦ ?_) ?_
  · by_cases hname : f.name = key
    · have hchanged : (modifyMember key change members).lookup f.name = some (change w) := by
        rw [Json.lookup_modifyMember, if_pos hname, hname, present, Option.map_some]
      exact fieldComesToSame_of_present hR (hname ▸ present) hchanged (same f hf hname)
    · refine fieldComesToSame_of_lookup_eq hR ?_
      rw [Json.lookup_modifyMember, if_neg hname]
  · rw [Json.keys_modifyMember]
    exact hR.refl _

end Object

section Array

variable {item : FieldType} {items items' : List Value}

theorem array_or_wrongKind (type : FieldType) :
    (∃ item, type = .array item) ∨ ∀ items, type.admitsKind (.array items) = false := by
  cases type with
  | array item => exact .inl ⟨item, rfl⟩
  | named | inline => exact .inr fun _ ↦ rfl
  | scalar scalar =>
    refine .inr fun _ ↦ ?_
    cases h : scalar.kind <;> simp [FieldType.admitsKind, isOfKind, h]

theorem comesToSame_array (hR : Local R) (length : items.length = items'.length)
    (each : ∀ (i : Nat) (hi : i < items.length) (hi' : i < items'.length),
      ComesToSame R s item items[i] items'[i]) :
    ComesToSame R s (.array item) (.array items) (.array items') := by
  constructor
  case findings =>
    rw [findings_array, findings_array, arrayFindings, arrayFindings]
    refine hR.flatten (List.forall₂_iff_get.2 ⟨by simp [length], fun i hi hi' ↦ ?_⟩)
    rw [List.length_mapIdx, List.length_map] at hi hi'
    simp only [List.get_eq_getElem, List.getElem_mapIdx, List.getElem_map]
    exact hR.under _ (each i hi hi').findings
  case normalForm =>
    intro hnone
    rw [findings_array, arrayFindings, List.flatten_eq_nil_iff] at hnone
    rw [normalForm_array, normalForm_array]
    refine congrArg Value.array (List.ext_getElem (by simp [length]) fun i hi hi' ↦ ?_)
    rw [List.length_map] at hi hi'
    have hitem : (findings s items[i] item).map (Finding.under [.index i]) = [] :=
      hnone _ (List.mem_mapIdx.2 ⟨i, by simpa using hi, by simp⟩)
    rw [List.getElem_map, List.getElem_map]
    exact (each i hi hi').normalForm (List.map_eq_nil_iff.1 hitem)

theorem comesToSame_modify (hR : Local R) {i : Nat} {change : Value → Value}
    (present : items[i]? = some w) (same : ComesToSame R s item w (change w)) :
    ComesToSame R s (.array item) (.array items) (.array (items.modify i change)) := by
  refine comesToSame_array hR (List.length_modify ..).symm fun j hj hj' ↦ ?_
  rw [List.getElem_modify]
  split
  case isTrue hij =>
    obtain ⟨_, rfl⟩ := List.getElem?_eq_some_iff.1 present
    subst hij
    exact same
  case isFalse => exact .refl hR _

end Array

theorem Visited.comesToSame (hR : Local R)
    (fields_nodup : ∀ id, ((s.definition id).fields.map (·.name)).Nodup)
    (h : Visited s type v p t w) (same : ComesToSame R s t w new) :
    ComesToSame R s type v (replaceAt new p v) := by
  induction h with
  | here => exact same
  | @member type t id members f v w p isObject declared present _ ih =>
    refine comesToSame_modifyMember hR isObject present fun g hg hname ↦ ?_
    -- No other field has this name, so the member is looked at with the type of `f` only.
    obtain rfl := List.inj_on_of_nodup_map (fields_nodup id) hg declared hname
    exact ih same
  | item present _ ih => exact comesToSame_modify hR present (ih same)

theorem PartAt.comesToSame (hR : Local R) (h : PartAt w p v)
    (same : ∀ type, ComesToSame R s type w new) (type : FieldType) :
    ComesToSame R s type v (replaceAt new p v) := by
  induction h generalizing type with
  | here => exact same type
  | member present _ ih =>
    rcases objectId?_or_wrongKind type with ⟨id, isObject⟩ | wrong
    · exact comesToSame_modifyMember hR isObject present fun f _ _ ↦ ih f.type
    · exact comesToSame_of_kind hR (wrong _) (wrong _) rfl
  | item present _ ih =>
    rcases array_or_wrongKind type with ⟨item, rfl⟩ | wrong
    · exact comesToSame_modify hR present (ih item)
    · exact comesToSame_of_kind hR (wrong _) (wrong _) rfl

end DocumentSchema.Validation
