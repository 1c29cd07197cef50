import DocumentSchema.Proofs.Json.DistinctKeys
import DocumentSchema.Proofs.Validation.Positions

namespace DocumentSchema.Validation

open Json (Value)

variable {s : Schema} {type : FieldType} {v : Value} {p q : Path}

/-- The keys that a walk turns to at an object, in its order. -/
def visitOrder (d : TypeDefinition) (members : List (String × Value)) : List String :=
  d.fields.map (·.name) ++ (members.map (·.1)).filter fun key ↦ (d.field? key).isNone

/-- A walk comes to one place before another, and neither is on the way to the other. -/
inductive Before (s : Schema) : FieldType → Value → Path → Path → Prop
  | keys {type : FieldType} {id : Nat} {members : List (String × Value)} {a b : String} {p q : Path}
      (isObject : type.objectId? = some id)
      (order : [a, b].Sublist (visitOrder (s.definition id) members)) :
      Before s type (.object members) (.field a :: p) (.field b :: q)
  | member {type : FieldType} {id : Nat} {members : List (String × Value)} {f : FieldDefinition}
      {v : Value} {p q : Path} (isObject : type.objectId? = some id)
      (declared : f ∈ (s.definition id).fields) (present : members.lookup f.name = some v)
      (rest : Before s f.type v p q) :
      Before s type (.object members) (.field f.name :: p) (.field f.name :: q)
  | indices {item : FieldType} {items : List Value} {i j : Nat} {p q : Path} (order : i < j) :
      Before s (.array item) (.array items) (.index i :: p) (.index j :: q)
  | item {item : FieldType} {items : List Value} {i : Nat} {v : Value} {p q : Path}
      (present : items[i]? = some v) (rest : Before s item v p q) :
      Before s (.array item) (.array items) (.index i :: p) (.index i :: q)

theorem visitOrder_nodup {d : TypeDefinition} {members : List (String × Value)}
    (hfields : (d.fields.map (·.name)).Nodup) (hkeys : (members.map (·.1)).Nodup) :
    (visitOrder d members).Nodup := by
  refine List.nodup_append.2 ⟨hfields, hkeys.filter _, ?_⟩
  intro name hname key hkey
  obtain ⟨f, hf, rfl⟩ := List.mem_map.1 hname
  exact TypeDefinition.field?_isNone_iff.1 (List.mem_filter.1 hkey).2 f hf

theorem Before.not_prefix (hfields : ∀ id, ((s.definition id).fields.map (·.name)).Nodup)
    (h : Before s type v p q) (hv : v.DistinctKeys) : ¬ p <+: q ∧ ¬ q <+: p := by
  induction h with
  | @keys type id members a b p q isObject order =>
    have hne : a ≠ b := by
      have hpair := (visitOrder_nodup (hfields id) hv.keys_nodup).sublist order
      simpa using hpair
    simp [List.cons_prefix_cons, hne, hne.symm]
  | @member type id members f v p q isObject declared present rest ih =>
    simpa [List.cons_prefix_cons] using ih (hv.of_mem (Json.mem_of_lookup present))
  | indices order =>
    have hne := Nat.ne_of_lt order
    simp [List.cons_prefix_cons, hne, hne.symm]
  | item present rest ih =>
    simpa [List.cons_prefix_cons] using ih (hv.of_mem_items (List.mem_of_getElem? present))

theorem field_prefix_of_mem {members : List (String × Value)} {f : FieldDefinition} {g : Finding}
    (h : g ∈ fieldFindings (members.map fun m ↦ (m.1, findings s m.2)) f) :
    ∃ p, g.path = .field f.name :: p := by
  cases present : members.lookup f.name with
  | some v =>
    rw [fieldFindings_of_present present] at h
    obtain ⟨inner, -, rfl⟩ := List.mem_map.1 h
    exact ⟨inner.path, rfl⟩
  | none =>
    rw [fieldFindings_of_absent present] at h
    split at h
    · rw [List.mem_singleton.1 h]
      exact ⟨[], rfl⟩
    · cases h

def Ordered (s : Schema) (type : FieldType) (v : Value) : Prop :=
  (findings s v type).Pairwise fun f g ↦ Before s type v f.path g.path

theorem ordered_of_kind (h : type.admitsKind v = false) : Ordered s type v := by
  rw [Ordered, findings_of_kind s h]
  exact List.pairwise_singleton _ _

theorem ordered_scalar {scalar : Scalar} : Ordered s (.scalar scalar) v := by
  rw [Ordered, findings_scalar]
  cases scalarViolation? scalar v <;> simp

theorem fieldFindings_ordered {id : Nat} {members : List (String × Value)} {f : FieldDefinition}
    (isObject : type.objectId? = some id) (declared : f ∈ (s.definition id).fields)
    (ih : ∀ m ∈ members, ∀ type, Ordered s type m.2) :
    (fieldFindings (members.map fun m ↦ (m.1, findings s m.2)) f).Pairwise fun g g' ↦
      Before s type (.object members) g.path g'.path := by
  cases present : members.lookup f.name with
  | some v =>
    rw [fieldFindings_of_present present, List.pairwise_map]
    have hordered : Ordered s f.type v := ih _ (Json.mem_of_lookup present) f.type
    exact hordered.imp fun h ↦ .member isObject declared present h
  | none =>
    rw [fieldFindings_of_absent present]
    cases f.required <;> simp

theorem ordered_object {id : Nat} {members : List (String × Value)}
    (isObject : type.objectId? = some id) (ih : ∀ m ∈ members, ∀ type, Ordered s type m.2) :
    Ordered s type (.object members) := by
  have hbefore (a b : String) (p q : Path)
      (h : [a, b].Sublist (visitOrder (s.definition id) members)) :
      Before s type (.object members) (.field a :: p) (.field b :: q) := .keys isObject h
  have hrefused : (refusedKeys (s.definition id) (members.map (·.1))).Sublist
      ((members.map (·.1)).filter fun key ↦ ((s.definition id).field? key).isNone) := by
    unfold refusedKeys
    split
    · exact .refl _
    · exact List.nil_sublist _
  rw [Ordered, findings_object s isObject, objectFindings_eq, List.pairwise_append]
  refine ⟨?fields, ?refused, ?fieldsFirst⟩
  case fields =>
    refine List.pairwise_flatMap.2 ⟨fun f hf ↦ fieldFindings_ordered isObject hf ih, ?_⟩
    rw [List.pairwise_iff_forall_sublist]
    intro f f' hsub g hg g' hg'
    obtain ⟨p, hp⟩ := field_prefix_of_mem hg
    obtain ⟨q, hq⟩ := field_prefix_of_mem hg'
    have hnames : [f.name, f'.name].Sublist ((s.definition id).fields.map (·.name)) := hsub.map _
    rw [hp, hq]
    exact hbefore _ _ _ _ (hnames.trans (List.sublist_append_left _ _))
  case refused =>
    rw [List.pairwise_map, List.pairwise_iff_forall_sublist]
    intro key key' hsub
    exact hbefore _ _ _ _ ((hsub.trans hrefused).trans (List.sublist_append_right _ _))
  case fieldsFirst =>
    intro g hg g' hg'
    obtain ⟨f, hf, hg⟩ := List.mem_flatMap.1 hg
    obtain ⟨key, hkey, rfl⟩ := List.mem_map.1 hg'
    obtain ⟨p, hp⟩ := field_prefix_of_mem hg
    have hname : [f.name].Sublist ((s.definition id).fields.map (·.name)) :=
      List.singleton_sublist.2 (List.mem_map_of_mem hf)
    have hother : [key].Sublist _ := List.singleton_sublist.2 (hrefused.subset hkey)
    rw [hp]
    exact hbefore _ _ _ _ (hname.append hother)

theorem ordered_array {item : FieldType} {items : List Value}
    (ih : ∀ v ∈ items, ∀ type, Ordered s type v) : Ordered s (.array item) (.array items) := by
  rw [Ordered, findings_array, arrayFindings, List.pairwise_flatten]
  refine ⟨fun found hfound ↦ ?_, ?_⟩
  · obtain ⟨i, hi, rfl⟩ := List.mem_mapIdx.1 hfound
    rw [List.length_map] at hi
    rw [List.getElem_map, List.pairwise_map]
    have hordered : Ordered s item items[i] := ih items[i] (List.getElem_mem hi) item
    exact hordered.imp fun h ↦ .item (List.getElem?_eq_getElem hi) h
  · rw [List.pairwise_iff_getElem]
    intro i j hi hj hij f hf g hg
    rw [List.getElem_mapIdx] at hf hg
    obtain ⟨f, -, rfl⟩ := List.mem_map.1 hf
    obtain ⟨g, -, rfl⟩ := List.mem_map.1 hg
    exact .indices hij

theorem ordered (v : Value) (type : FieldType) : Ordered s type v := by
  induction v, type using typedInduction with
  | scalar v scalar => exact ordered_scalar
  | wrongKind v type wrong => exact ordered_of_kind wrong
  | array items item ih => exact ordered_array ih
  | object members type id isObject ih => exact ordered_object isObject ih

/-- What a report on a value under a type should be: it names the violations and nothing else, in the
order of a walk, no place twice and none below another. -/
structure ExactReport (s : Schema) (type : FieldType) (v : Value) (found : List Finding) : Prop where
  exact_findings : ∀ f, f ∈ found ↔ Violates s type v f
  inOrder : found.Pairwise fun f g ↦ Before s type v f.path g.path
  paths_nodup : (found.map (·.path)).Nodup
  apart : ∀ f ∈ found, ∀ g ∈ found, f.path <+: g.path → f = g

theorem findings_exact (hfields : ∀ id, ((s.definition id).fields.map (·.name)).Nodup)
    (distinct : v.DistinctKeys) : ExactReport s type v (findings s v type) := by
  have hordered : Ordered s type v := ordered v type
  have hapart : (findings s v type).Pairwise fun f g ↦ ¬ f.path <+: g.path ∧ ¬ g.path <+: f.path :=
    hordered.imp fun h ↦ h.not_prefix hfields distinct
  constructor
  case exact_findings => exact fun f ↦ mem_findings_iff
  case inOrder => exact hordered
  case paths_nodup =>
    rw [List.Nodup, List.pairwise_map]
    exact hapart.imp fun h hpath ↦ h.1 (by simp [hpath])
  case apart =>
    refine List.Pairwise.forall_of_forall_of_flip (fun f _ _ ↦ rfl) ?_ ?_
    · exact hapart.imp fun h hprefix ↦ absurd hprefix h.1
    · exact hapart.imp fun h hprefix ↦ absurd hprefix h.2

section At

variable {t : FieldType} {w : Value} {g : Finding}
  (hfields : ∀ id, ((s.definition id).fields.map (·.name)).Nodup)

include hfields

theorem Visited.exists_of_prefix (h : Visited s type v p t w) (hg : g ∈ findings s v type)
    (below : p <+: g.path) : ∃ f ∈ findings s w t, f.under p = g := by
  induction h generalizing g with
  | here => exact ⟨g, hg, rfl⟩
  | @member type t id members f v w p isObject declared present rest ih =>
    rw [findings_object s isObject, mem_objectFindings_iff] at hg
    rcases hg with ⟨f', declared', hg⟩ | ⟨key, hkey, rfl⟩
    · obtain ⟨q, hq⟩ := field_prefix_of_mem hg
      rw [hq, List.cons_prefix_cons, Segment.field.injEq] at below
      obtain rfl : f = f' := List.inj_on_of_nodup_map (hfields id) declared declared' below.1
      rw [fieldFindings_of_present present] at hg
      obtain ⟨inner, hinner, rfl⟩ := List.mem_map.1 hg
      obtain rfl : inner.path = q := List.cons.inj hq |>.2
      obtain ⟨found, hfound, rfl⟩ := ih hinner below.2
      exact ⟨found, hfound, (Finding.under_under [.field f.name] p found).symm⟩
    · obtain ⟨-, -, undeclared⟩ := mem_refusedKeys_iff.1 hkey
      rw [List.cons_prefix_cons, Segment.field.injEq] at below
      exact absurd below.1 (undeclared f declared)
  | @item item t items i v w p present rest ih =>
    rw [findings_array, mem_arrayFindings_iff] at hg
    obtain ⟨j, u, hu, inner, hinner, rfl⟩ := hg
    rw [Finding.under_path, List.singleton_append, List.cons_prefix_cons, Segment.index.injEq] at below
    obtain ⟨rfl, below⟩ := below
    obtain rfl := Option.some.inj (present.symm.trans hu)
    obtain ⟨found, hfound, rfl⟩ := ih hinner below
    exact ⟨found, hfound, (Finding.under_under [.index i] p found).symm⟩

theorem findings_of_onlyThere {scalar : Scalar} (distinct : v.DistinctKeys)
    (visited : Visited s type v p (.scalar scalar) w) (only : ∀ g ∈ findings s v type, g.path = p) :
    findings s v type = (scalarViolation? scalar w).toList.map (⟨p, ·⟩) := by
  have hnodup : (findings s v type).Nodup := .of_map _ (findings_exact hfields distinct).paths_nodup
  have hmem (g : Finding) :
      g ∈ findings s v type ↔ g ∈ (scalarViolation? scalar w).toList.map (⟨p, ·⟩) := by
    have hthere : g ∈ (scalarViolation? scalar w).toList.map (⟨p, ·⟩) ↔
        ∃ f ∈ findings s w (.scalar scalar), f.under p = g := by
      simp [Finding.under]
    rw [hthere]
    constructor
    · intro hg
      exact visited.exists_of_prefix hfields hg (only g hg ▸ List.prefix_refl _)
    · rintro ⟨f, hf, rfl⟩
      exact visited.under_mem_findings hf
  cases h : scalarViolation? scalar w with
  | none => exact List.eq_nil_iff_forall_not_mem.2 fun g hg ↦ by simpa [h] using (hmem g).1 hg
  | some violation =>
    rw [h] at hmem
    exact List.perm_singleton.1
      ((List.perm_ext_iff_of_nodup hnodup (List.nodup_singleton _)).2 hmem)

end At

end DocumentSchema.Validation
