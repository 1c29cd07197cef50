import DocumentSchema.Proofs.Schema.Coherence
import DocumentSchema.Proofs.Schema.JsonSchema
import DocumentSchema.Proofs.Schema.Simulation

namespace DocumentSchema

open Json (Value)
open Validation

theorem map_filter_eq_of_forall₂ {α β γ : Type} {R : α → β → Prop} {l : List α} {l' : List β}
    {p : α → Bool} {q : β → Bool} {f : α → γ} {g : β → γ}
    (h : List.Forall₂ R l l') (kept : ∀ a b, R a b → p a = q b)
    (same : ∀ a b, R a b → p a = true → f a = g b) :
    (l.filter p).map f = (l'.filter q).map g := by
  induction h with
  | nil => rfl
  | @cons a b _ _ hab _ ih =>
    rw [List.filter_cons, List.filter_cons, ← kept a b hab]
    split
    case isTrue hp => rw [List.map_cons, List.map_cons, same a b hab hp, ih]
    case isFalse => exact ih

/-- Types that differ in the places of object types only. -/
inductive FieldType.Corresponds (related : Nat → Nat → Prop) : FieldType → FieldType → Prop
  | scalar (scalar : Scalar) : Corresponds related (.scalar scalar) (.scalar scalar)
  | named {id id' : Nat} (h : related id id') : Corresponds related (.named id) (.named id')
  | inline {id id' : Nat} (h : related id id') : Corresponds related (.inline id) (.inline id')
  | array {item item' : FieldType} (h : Corresponds related item item') :
      Corresponds related (.array item) (.array item')

structure FieldDefinition.Corresponds (related : Nat → Nat → Prop) (f f' : FieldDefinition) :
    Prop where
  name : f.name = f'.name
  type : f.type.Corresponds related f'.type
  required : f.required = f'.required
  default : f.default = f'.default

/-- The made-up names of types written in place may differ. -/
structure TypeDefinition.Corresponds (related : Nat → Nat → Prop) (d d' : TypeDefinition) :
    Prop where
  name : d.anonymous = false → d.name = d'.name
  anonymous : d.anonymous = d'.anonymous
  closed : d.closed = d'.closed
  fields : List.Forall₂ (FieldDefinition.Corresponds related) d.fields d'.fields

/-- A relation between places of two schemas. It relates a place to one other place at most, and
only places where the types correspond. -/
structure Schema.Correspondence (s t : Schema) (related : Nat → Nat → Prop) : Prop where
  inside : ∀ id id', related id id' → id < s.types.length ∧ id' < t.types.length
  unique : ∀ id id' other other', related id id' → related other other' →
    (id = other ↔ id' = other')
  definitions : ∀ id id', related id id' →
    (s.definition id).Corresponds related (t.definition id')

section Definitions

variable {related : Nat → Nat → Prop} {type type' : FieldType} {d d' : TypeDefinition}

theorem FieldType.Corresponds.mirrors (h : type.Corresponds related type') :
    type.Mirrors related type' := by
  induction h with
  | scalar scalar => exact .scalar scalar
  | named hrelated | inline hrelated => exact .object rfl rfl hrelated
  | array _ ih => exact .array ih

theorem TypeDefinition.Corresponds.mirrors (h : d.Corresponds related d') :
    d.Mirrors related d' where
  closed := h.closed
  fields := h.fields.imp fun _ _ hfield ↦
    ⟨hfield.name, hfield.type.mirrors, hfield.required, hfield.default⟩

theorem FieldType.Corresponds.target? (h : type.Corresponds related type') :
    Option.Rel related type.target? type'.target? := by
  induction h with
  | scalar => exact .none
  | named hrelated | inline hrelated => exact .some hrelated
  | array _ ih => exact ih

theorem TypeDefinition.Corresponds.names (h : d.Corresponds related d') :
    d.fields.map (·.name) = d'.fields.map (·.name) :=
  map_eq_map_of_forall₂ h.fields fun _ _ _ hfield ↦ hfield.name

theorem TypeDefinition.Corresponds.required (h : d.Corresponds related d') :
    (d.fields.filter (·.required)).map (·.name) = (d'.fields.filter (·.required)).map (·.name) :=
  map_filter_eq_of_forall₂ h.fields (fun _ _ hfield ↦ hfield.required)
    fun _ _ hfield _ ↦ hfield.name

end Definitions

section Roots

variable {r r' : Root} {related : Nat → Nat → Prop}

theorem Schema.Correspondence.simulation {s t : Schema} (h : s.Correspondence t related) :
    s.Simulation t related := fun id id' hid ↦ (h.definitions id id' hid).mirrors

theorem Schema.Correspondence.run_eq (h : r.schema.Correspondence r'.schema related)
    (hid : related r.id r'.id) (mode : Mode) (v : Value) : r.run mode v = r'.run mode v :=
  h.simulation.run_eq (.object rfl rfl hid) mode v

end Roots

namespace Schema.Correspondence

variable {s t : Schema} {related : Nat → Nat → Prop} (h : s.Correspondence t related)
  {id id' : Nat} {name : String}
include h

theorem successors (hid : related id id') :
    List.Forall₂ related (s.successors id) (t.successors id') :=
  List.rel_filterMap (fun _ _ hfield ↦ hfield.type.target?) (h.definitions id id' hid).fields

theorem visit {unseen unseen' pending pending' : List Nat}
    (hpending : List.Forall₂ related pending pending') (distinct : unseen.Nodup)
    (distinct' : unseen'.Nodup)
    (hunseen : ∀ id id', related id id' → (id ∈ unseen ↔ id' ∈ unseen')) :
    List.Forall₂ related (s.visit unseen pending) (t.visit unseen' pending') := by
  fun_induction s.visit unseen pending generalizing unseen' pending' with
  | case1 unseen =>
    cases hpending
    rw [Schema.visit]
    exact .nil
  | case2 unseen id rest hmem ih =>
    obtain ⟨id', rest', hid, hrest, rfl⟩ := List.forall₂_cons_left_iff.1 hpending
    rw [Schema.visit, if_pos ((hunseen id id' hid).1 hmem)]
    refine .cons hid (ih ?_ (distinct.erase id) (distinct'.erase id') fun other other' hother ↦ ?_)
    · exact List.rel_append (h.successors hid) hrest
    · rw [distinct.mem_erase_iff, distinct'.mem_erase_iff, hunseen other other' hother,
        Ne, Ne, h.unique other other' id id' hother hid]
  | case3 unseen id rest hmem ih =>
    obtain ⟨id', rest', hid, hrest, rfl⟩ := List.forall₂_cons_left_iff.1 hpending
    rw [Schema.visit, if_neg fun hmem' ↦ hmem ((hunseen id id' hid).2 hmem')]
    exact ih hrest distinct distinct' hunseen

theorem reachable (hid : related id id') :
    List.Forall₂ related (s.reachable id) (t.reachable id') := by
  refine h.visit (.cons hid .nil) List.nodup_range List.nodup_range fun other other' hother ↦ ?_
  obtain ⟨hlt, hlt'⟩ := h.inside other other' hother
  rw [List.mem_range, List.mem_range]
  exact iff_of_true hlt hlt'

variable [PatternEngine]

theorem keywords_eq {type type' : FieldType} {low : Nat} (hs : s.WellFormed)
    (htype : type.Corresponds related type')
    (within : type.Within s.typeNames.length low s.types.length)
    (ih : ∀ id id', related id id' → low ≤ id → s.objectKeywords id = t.objectKeywords id') :
    s.keywords type = t.keywords type' := by
  induction htype with
  | scalar => rfl
  | @named id id' hid =>
    have hdeclared : (s.definition id).anonymous = false := hs.declared_iff.2 within
    rw [keywords, keywords, typeKeywords, typeKeywords, (h.definitions id id' hid).name hdeclared]
  | @inline id id' hid => exact ih id id' hid within.1
  | array _ ihItem =>
    have hitem := ihItem within
    rw [keywords, keywords] at hitem
    rw [keywords, keywords, typeKeywords, typeKeywords, hitem]

theorem objectKeywords_eq (hs : s.WellFormed) (ht : t.WellFormed) (hid : related id id') :
    s.objectKeywords id = t.objectKeywords id' := by
  -- Types written in place come later, so fewer types are left.
  induction hn : s.types.length - id using Nat.strongRecOn generalizing id id' with
  | ind n ih =>
    have hd := h.definitions id id' hid
    have hproperties : (s.definition id).fields.map s.property =
        (t.definition id').fields.map t.property := by
      refine map_eq_map_of_forall₂ hd.fields fun f hf f' hfield ↦ ?_
      have hwithin := ((hs.definition id).fields f hf).type
      have htype : s.keywords f.type = t.keywords f'.type := by
        refine h.keywords_eq hs hfield.type hwithin fun child child' hchild hlow ↦ ?_
        obtain ⟨hlt, -⟩ := h.inside child child' hchild
        exact ih (s.types.length - child) (by omega) hchild rfl
      rw [property, property, hfield.name, htype, hfield.default]
    rw [DocumentSchema.objectKeywords_eq hs, DocumentSchema.objectKeywords_eq ht, hproperties,
      hd.required, hd.closed]

theorem definitions_eq (hs : s.WellFormed) (ht : t.WellFormed) (hid : related id id') :
    s.definitions id = t.definitions id' := by
  refine map_filter_eq_of_forall₂ (h.reachable hid) (fun i i' hi ↦ ?_) fun i i' hi hdeclared ↦ ?_
  · rw [(h.definitions i i' hi).anonymous]
  · rw [(h.definitions i i' hi).name (by simpa using hdeclared), h.objectKeywords_eq hs ht hi]

theorem jsonSchema_eq (hs : s.WellFormed) (ht : t.WellFormed) (hid : related id id')
    (hdeclared : (s.definition id).anonymous = false) (hroot : s.rootId name = .ok id)
    (hroot' : t.rootId name = .ok id') : s.jsonSchema name = t.jsonSchema name := by
  rw [jsonSchema_eq_ok hroot, jsonSchema_eq_ok hroot', documentKeywords, documentKeywords,
    (h.definitions id id' hid).name hdeclared, h.definitions_eq hs ht hid]

end Schema.Correspondence

end DocumentSchema
