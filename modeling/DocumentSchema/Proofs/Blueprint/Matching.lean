import DocumentSchema.Proofs.Blueprint.Ownership
import DocumentSchema.Proofs.Blueprint.Rendering
import DocumentSchema.Proofs.Schema.Correspondence

namespace DocumentSchema

namespace Schema

/-- The places of matching types. -/
inductive Matches (s t : Schema) : Nat → Nat → Prop
  | declared {name : String} {id id' : Nat} (hid : s.typeNames[id]? = some name)
      (hid' : t.typeNames[id']? = some name) : Matches s t id id'
  | inPlace {owner owner' id id' : Nat} {f f' : FieldDefinition} (howner : Matches s t owner owner')
      (hf : s.Owns owner f id) (hf' : t.Owns owner' f' id') (hname : f.name = f'.name) :
      Matches s t id id'

variable {s t : Schema} {owner id id' other' : Nat} {f : FieldDefinition}

theorem Matches.symm (h : s.Matches t id id') : t.Matches s id' id := by
  induction h with
  | declared hid hid' => exact .declared hid' hid
  | inPlace _ hf hf' hname ih => exact .inPlace ih hf' hf hname.symm

variable [PatternEngine]

theorem WellFormed.declared_le (hs : s.WellFormed) (hf : s.Owns owner f id) :
    s.typeNames.length ≤ id := by
  obtain ⟨hlow, -⟩ := ((hs.definition owner).fields f hf.field).type.inline_bounds hf.inline
  exact Nat.le_trans (Nat.le_max_left _ _) hlow

theorem WellFormed.not_owns (hs : s.WellFormed) {name : String}
    (hid : s.typeNames[id]? = some name) : ¬ s.Owns owner f id := fun hf ↦
  Nat.not_lt_of_le (hs.declared_le hf) (List.getElem?_eq_some_iff.1 hid).1

theorem Matches.inside (h : s.Matches t id id') (hs : s.WellFormed) : id < s.types.length := by
  cases h with
  | declared hid =>
    exact Nat.lt_of_lt_of_le (List.getElem?_eq_some_iff.1 hid).1 typeNames_length_le
  | inPlace _ hf =>
    exact hs.target_lt hf.field (FieldType.target?_eq_some_iff.2 (.inr hf.inline))

theorem Matches.unique (h : s.Matches t id id') (hs : s.WellFormed) (owned : s.OwnedOnce)
    (ht : t.WellFormed) (hother : s.Matches t id other') : id' = other' := by
  induction h generalizing other' with
  | declared hid hid' =>
    cases hother with
    | declared hid₂ hother' =>
      rw [hid] at hid₂
      cases hid₂
      exact (List.getElem?_inj (List.getElem?_eq_some_iff.1 hid').1 ht.names_nodup).1
        (hid'.trans hother'.symm)
    | inPlace _ hf => exact absurd hf (hs.not_owns hid)
  | inPlace howner hf hf' hname ih =>
    cases hother with
    | declared hid => exact absurd hf (hs.not_owns hid)
    | inPlace howner₂ hf₂ hf₂' hname₂ =>
      -- The field is the only one that the type is written in.
      obtain ⟨rfl, rfl⟩ := owned.owner_unique hf hf₂
      obtain rfl := ih howner₂
      have hfield := List.inj_on_of_nodup_map (ht.fields_nodup _) hf'.field hf₂'.field
        (hname.symm.trans hname₂)
      rw [← hfield] at hf₂'
      exact Option.some.inj (hf'.inline.symm.trans hf₂'.inline)

theorem Matches.anonymous (h : s.Matches t id id') (hs : s.WellFormed) (ht : t.WellFormed) :
    (s.definition id).anonymous = (t.definition id').anonymous := by
  cases h with
  | declared hid hid' =>
    rw [hs.declared_iff.2 (List.getElem?_eq_some_iff.1 hid).1,
      ht.declared_iff.2 (List.getElem?_eq_some_iff.1 hid').1]
  | inPlace _ hf hf' =>
    rw [hs.anonymous_of_le (hs.declared_le hf), ht.anonymous_of_le (ht.declared_le hf')]

theorem Matches.name (h : s.Matches t id id') (hs : s.WellFormed) (ht : t.WellFormed)
    (hdeclared : (s.definition id).anonymous = false) :
    (s.definition id).name = (t.definition id').name := by
  cases h with
  | declared hid hid' =>
    obtain ⟨hlt, -⟩ := List.getElem?_eq_some_iff.1 hid
    obtain ⟨hlt', -⟩ := List.getElem?_eq_some_iff.1 hid'
    exact Option.some.inj <| calc
      some (s.definition id).name = s.typeNames[id]? := (hs.typeNames_getElem? hlt).1.symm
      _ = t.typeNames[id']? := hid.trans hid'.symm
      _ = some (t.definition id').name := (ht.typeNames_getElem? hlt').1
  | inPlace _ hf =>
    exact absurd (hs.declared_iff.1 hdeclared) (Nat.not_lt_of_le (hs.declared_le hf))

end Schema

namespace Blueprint

variable [PatternEngine] {s t : Schema} {openByDefault : Bool} {related : Nat → Nat → Prop}

section Fields

variable {fields : List Field} {fs fs' : List FieldDefinition}

theorem RendersFields.names (h : RendersFields s openByDefault fields fs) :
    fs.map (·.name) = fields.map (·.name.value) := by
  induction fs generalizing fields with
  | nil =>
    cases h
    rfl
  | cons f others ih =>
    cases h with
    | cons name type required default rendered =>
      rw [List.map_cons, List.map_cons, name, ih rendered]

theorem RendersFields.exists_field (h : RendersFields s openByDefault fields fs)
    {f : FieldDefinition} (hf : f ∈ fs) : ∃ field ∈ fields, f.name = field.name.value ∧
      RendersType s openByDefault field.type f.type := by
  induction fs generalizing fields with
  | nil => cases hf
  | cons first others ih =>
    cases h with
    | cons name type required default rendered =>
      rcases List.mem_cons.1 hf with rfl | hf
      · exact ⟨_, List.mem_cons_self, name, type⟩
      · obtain ⟨field, hfield, hrenders⟩ := ih rendered hf
        exact ⟨field, List.mem_cons_of_mem _ hfield, hrenders⟩

theorem RendersFields.exists_definition (h : RendersFields s openByDefault fields fs) {f : Field}
    (hf : f ∈ fields) : ∃ d ∈ fs, d.name = f.name.value ∧
      RendersType s openByDefault f.type d.type ∧ d.default = f.default.map (·.value.toValue) := by
  induction fs generalizing fields with
  | nil =>
    cases h
    cases hf
  | cons first others ih =>
    cases h with
    | cons name type required default rendered =>
      rcases List.mem_cons.1 hf with rfl | hf
      · exact ⟨first, List.mem_cons_self, name, type, default⟩
      · obtain ⟨d, hd, hrenders⟩ := ih rendered hf
        exact ⟨d, List.mem_cons_of_mem _ hd, hrenders⟩

theorem RendersType.exists_body {clause : TypeClause} {type : FieldType} {id : Nat}
    (h : RendersType s openByDefault clause type) (hid : type.inline? = some id) :
    ∃ openness fields, clause.base = .inline openness fields ∧
      RendersBody s openByDefault openness fields (s.definition id) := by
  induction type generalizing clause with
  | inline place =>
    obtain rfl := Option.some.inj hid
    cases h with
    | inline lt anonymous closed rendered => exact ⟨_, _, rfl, closed, rendered⟩
  | array item ih =>
    cases h with
    | array rendered =>
      obtain ⟨openness, fields, hbase, hbody⟩ := ih rendered hid
      exact ⟨openness, fields, hbase, hbody⟩
  | scalar | named => cases hid

theorem RendersType.corresponds {clause : TypeClause} {type type' : FieldType}
    (h : RendersType s openByDefault clause type) (h' : RendersType t openByDefault clause type')
    (declared : ∀ (name : String) (id id' : Nat), s.typeNames[id]? = some name →
      t.typeNames[id']? = some name → related id id')
    (inPlace : ∀ id id', type.inline? = some id → type'.inline? = some id' → related id id') :
    type.Corresponds related type' := by
  induction type generalizing clause type' with
  | scalar scalar =>
    cases h
    cases h'
    exact .scalar _
  | named id =>
    cases h with
    | named hid =>
      cases h' with
      | named hid' => exact .named (declared _ _ _ hid hid')
  | inline id =>
    cases h
    cases h'
    exact .inline (inPlace _ _ rfl rfl)
  | array item ih =>
    cases h with
    | array rendered =>
      cases h' with
      | array rendered' => exact .array (ih rendered rendered' inPlace)

theorem RendersFields.corresponds (h : RendersFields s openByDefault fields fs)
    (h' : RendersFields t openByDefault fields fs')
    (declared : ∀ (name : String) (id id' : Nat), s.typeNames[id]? = some name →
      t.typeNames[id']? = some name → related id id')
    (inPlace : ∀ f ∈ fs, ∀ f' ∈ fs', f.name = f'.name → ∀ id id', f.type.inline? = some id →
      f'.type.inline? = some id' → related id id') :
    List.Forall₂ (FieldDefinition.Corresponds related) fs fs' := by
  induction fs generalizing fields fs' with
  | nil =>
    cases h
    cases h'
    exact .nil
  | cons f others ih =>
    cases h with
    | cons name type required default rendered =>
      cases h' with
      | cons name' type' required' default' rendered' =>
        have hname := name.trans name'.symm
        refine .cons ⟨hname, ?_, required.trans required'.symm, default.trans default'.symm⟩ ?_
        · exact type.corresponds type' declared
            (inPlace f List.mem_cons_self _ List.mem_cons_self hname)
        · exact ih rendered rendered' fun f hf f' hf' ↦
            inPlace f (List.mem_cons_of_mem _ hf) f' (List.mem_cons_of_mem _ hf')

end Fields

section Shared

variable {items items' : List Item} (hs : s.WellFormed) (ht : t.WellFormed)
  (renders : Renders s openByDefault items) (renders' : Renders t openByDefault items')
  (among : items ⊆ items')
include hs ht renders renders' among

theorem exists_body_of_matches {id id' : Nat} (h : s.Matches t id id') : ∃ openness fields,
    RendersBody s openByDefault openness fields (s.definition id) ∧
      RendersBody t openByDefault openness fields (t.definition id') := by
  induction h with
  | @declared name id id' hid hid' =>
    rw [renders.typeNames, typeNames, List.getElem?_map, Option.map_eq_some_iff] at hid
    obtain ⟨d, hd, hname⟩ := hid
    have hnodup : (typeNames items').Nodup := renders'.typeNames ▸ ht.names_nodup
    rw [renders'.typeNames, typeNames, List.getElem?_map, Option.map_eq_some_iff] at hid'
    obtain ⟨d', hd', hname'⟩ := hid'
    -- One of the declarations stands among the others, where names are distinct.
    have hmem : d ∈ declarations items' := List.filterMap_subset _ among (List.mem_of_getElem? hd)
    obtain rfl : d = d' := List.inj_on_of_nodup_map hnodup hmem (List.mem_of_getElem? hd')
      (hname.trans hname'.symm)
    exact ⟨d.openness, d.fields, (renders.types id d hd).2.2, (renders'.types id' d hd').2.2⟩
  | @inPlace owner owner' id id' f f' _ hf hf' hname ih =>
    obtain ⟨openness, fields, hbody, hbody'⟩ := ih
    obtain ⟨field, hfield, hfieldName, htype⟩ := hbody.fields.exists_field hf.field
    obtain ⟨field', hfield', hfieldName', htype'⟩ := hbody'.fields.exists_field hf'.field
    have hnodup : (fields.map (·.name.value)).Nodup := hbody.fields.names ▸ hs.fields_nodup owner
    obtain rfl : field = field' := List.inj_on_of_nodup_map hnodup hfield hfield' <| calc
      field.name.value = f.name := hfieldName.symm
      _ = f'.name := hname
      _ = field'.name.value := hfieldName'
    obtain ⟨openness, fields, hbase, hinner⟩ := htype.exists_body hf.inline
    obtain ⟨openness', fields', hbase', hinner'⟩ := htype'.exists_body hf'.inline
    cases hbase.symm.trans hbase'
    exact ⟨openness, fields, hinner, hinner'⟩

theorem correspondence_of_matches (owned : s.OwnedOnce) (owned' : t.OwnedOnce) :
    s.Correspondence t (s.Matches t) where
  inside id id' h := ⟨h.inside hs, h.symm.inside ht⟩
  unique id id' other other' h hother := by
    constructor
    · rintro rfl
      exact h.unique hs owned ht hother
    · rintro rfl
      exact h.symm.unique ht owned' hs hother.symm
  definitions id id' h := by
    obtain ⟨openness, fields, hbody, hbody'⟩ :=
      exists_body_of_matches hs ht renders renders' among h
    refine ⟨h.name hs ht, h.anonymous hs ht, hbody.closed.trans hbody'.closed.symm, ?_⟩
    refine hbody.fields.corresponds hbody'.fields (fun _ _ _ ↦ .declared) ?_
    exact fun f hf f' hf' hname child child' hchild hchild' ↦
      .inPlace h ⟨hf, hchild⟩ ⟨hf', hchild'⟩ hname

end Shared

end Blueprint

end DocumentSchema
