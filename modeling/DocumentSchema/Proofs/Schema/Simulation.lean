import DocumentSchema.Proofs.Validation.Modes
import DocumentSchema.Proofs.Validation.Positions
import Mathlib.Data.List.Forall2

namespace DocumentSchema

open Json (Value)
open Validation

theorem map_eq_map_of_forall₂ {α β γ : Type} {R : α → β → Prop} {l : List α} {l' : List β}
    {f : α → γ} {g : β → γ} (h : List.Forall₂ R l l')
    (same : ∀ a ∈ l, ∀ b, R a b → f a = g b) : l.map f = l'.map g := by
  induction h with
  | nil => rfl
  | @cons a b _ _ hab _ ih =>
    rw [List.map_cons, List.map_cons, same a List.mem_cons_self b hab,
      ih fun a ha ↦ same a (List.mem_cons_of_mem _ ha)]

/-- Types that differ in their object types only, which are related by their places. -/
inductive FieldType.Mirrors (related : Nat → Nat → Prop) : FieldType → FieldType → Prop
  | scalar (scalar : Scalar) : Mirrors related (.scalar scalar) (.scalar scalar)
  | object {type type' : FieldType} {id id' : Nat} (isObject : type.objectId? = some id)
      (isObject' : type'.objectId? = some id') (h : related id id') : Mirrors related type type'
  | array {item item' : FieldType} (h : Mirrors related item item') :
      Mirrors related (.array item) (.array item')

structure FieldDefinition.Mirrors (related : Nat → Nat → Prop) (f f' : FieldDefinition) : Prop where
  name : f.name = f'.name
  type : f.type.Mirrors related f'.type
  required : f.required = f'.required
  default : f.default = f'.default

structure TypeDefinition.Mirrors (related : Nat → Nat → Prop) (d d' : TypeDefinition) : Prop where
  closed : d.closed = d'.closed
  fields : List.Forall₂ (FieldDefinition.Mirrors related) d.fields d'.fields

/-- A relation between places of two schemas that goes on in the fields of related types. -/
def Schema.Simulation (s t : Schema) (related : Nat → Nat → Prop) : Prop :=
  ∀ id id', related id id' → (s.definition id).Mirrors related (t.definition id')

variable {s t : Schema} {related : Nat → Nat → Prop} {mode : Mode} {type type' : FieldType}
  {d d' : TypeDefinition}

theorem FieldType.kind_of_objectId? {id : Nat} (h : type.objectId? = some id) :
    type.kind = .object := by
  cases type with
  | named | inline => rfl
  | scalar | array => cases h

theorem FieldType.admitsKind_of_objectId? {id : Nat} (h : type.objectId? = some id) (v : Value) :
    type.admitsKind v = (FieldType.named id).admitsKind v := by
  cases type with
  | named | inline => cases v <;> rfl
  | scalar | array => cases h

theorem FieldType.Mirrors.kind (h : type.Mirrors related type') : type.kind = type'.kind := by
  cases h with
  | scalar | array => rfl
  | object isObject isObject' => rw [kind_of_objectId? isObject, kind_of_objectId? isObject']

theorem FieldType.Mirrors.admitsKind (h : type.Mirrors related type') (v : Value) :
    type.admitsKind v = type'.admitsKind v := by
  cases h with
  | scalar => rfl
  | array => cases v <;> rfl
  | object isObject isObject' =>
    rw [admitsKind_of_objectId? isObject, admitsKind_of_objectId? isObject']
    cases v <;> rfl

theorem FieldType.Mirrors.objectId? (h : type.Mirrors related type') {id : Nat}
    (hid : type.objectId? = some id) : ∃ id', type'.objectId? = some id' ∧ related id id' := by
  cases h with
  | scalar | array => cases hid
  | object isObject isObject' hrelated =>
    obtain rfl := Option.some.inj (isObject.symm.trans hid)
    exact ⟨_, isObject', hrelated⟩

theorem TypeDefinition.Mirrors.refusedKeys (h : d.Mirrors related d') (keys : List String) :
    refusedKeys d keys = refusedKeys d' keys := by
  have hnames : d.fields.map (·.name) = d'.fields.map (·.name) :=
    map_eq_map_of_forall₂ h.fields fun _ _ _ hfield ↦ hfield.name
  have hundeclared (d : TypeDefinition) (key : String) :
      (d.field? key).isNone = true ↔ key ∉ d.fields.map (·.name) := by
    rw [field?_isNone_iff]
    simp
  have hfield (key : String) : (d.field? key).isNone = (d'.field? key).isNone := by
    rw [Bool.eq_iff_iff, hundeclared, hundeclared, hnames]
  simp only [Validation.refusedKeys, h.closed, hfield]

theorem normalizeField_eq {members : List (String × Value)} {f f' : FieldDefinition}
    (same : ∀ m ∈ members, ∀ type type', type.Mirrors related type' →
      normalize s mode m.2 type = normalize t mode m.2 type')
    (hfield : f.Mirrors related f') :
    normalizeField (members.map fun m ↦ (m.1, normalize s mode m.2)) f =
      normalizeField (members.map fun m ↦ (m.1, normalize t mode m.2)) f' := by
  simp only [normalizeField, Json.lookup_map_snd, hfield.name, hfield.required, hfield.default]
  cases hlookup : members.lookup f'.name with
  | none => rfl
  | some v => simp only [Option.map_some, same _ (Json.mem_of_lookup hlookup) _ _ hfield.type]

theorem normalizeArray_eq {items : List Value}
    (same : ∀ v ∈ items, normalize s mode v type = normalize t mode v type') :
    normalizeArray mode type (items.map (normalize s mode)) =
      normalizeArray mode type' (items.map (normalize t mode)) := by
  have hwalks : items.zipIdx.map (fun p ↦ Walk.within (.index p.2) (normalize s mode p.1 type)) =
      items.zipIdx.map fun p ↦ Walk.within (.index p.2) (normalize t mode p.1 type') :=
    List.map_congr_left fun p hp ↦ by rw [same p.1 (List.fst_mem_of_mem_zipIdx hp)]
  simp only [normalizeArray, List.mapIdx_eq_zipIdx_map, List.zipIdx_map, List.map_map,
    Function.comp_def, Prod.map_fst, Prod.map_snd, id, hwalks]

namespace Schema.Simulation

theorem normalize_eq (h : s.Simulation t related) (v : Value) (htype : type.Mirrors related type') :
    normalize s mode v type = normalize t mode v type' := by
  induction v, type using typedInduction generalizing type' with
  | scalar v scalar =>
    cases htype with
    | scalar => rw [normalize_scalar, normalize_scalar]
    | object isObject => cases isObject
  | wrongKind v type hkind =>
    have hkind' : type'.admitsKind v = false := (htype.admitsKind v).symm.trans hkind
    rw [normalize_of_kind hkind, normalize_of_kind hkind', htype.kind]
  | array items item ih =>
    cases htype with
    | array hitem =>
      rw [Validation.normalize, Validation.normalize, itemWalks_eq_map, itemWalks_eq_map]
      exact normalizeArray_eq fun v hv ↦ ih v hv item hitem
    | object isObject => cases isObject
  | object members type id isObject ih =>
    obtain ⟨id', isObject', hid⟩ := htype.objectId? isObject
    have hd := h id id' hid
    have hfields : (s.definition id).fields.map
          (normalizeField (members.map fun m ↦ (m.1, normalize s mode m.2))) =
        (t.definition id').fields.map
          (normalizeField (members.map fun m ↦ (m.1, normalize t mode m.2))) :=
      map_eq_map_of_forall₂ hd.fields fun _ _ _ hfield ↦
        normalizeField_eq (fun m hm type _ ↦ ih m hm type) hfield
    rw [normalize_object isObject, normalize_object isObject', normalizeObject, normalizeObject,
      hfields]
    simp only [List.map_map, Function.comp_def, hd.refusedKeys]

theorem run_eq {r r' : Root} (h : r.schema.Simulation r'.schema related)
    (htype : (FieldType.named r.id).Mirrors related (.named r'.id)) (mode : Mode) (v : Value) :
    r.run mode v = r'.run mode v :=
  Root.run_eq_of_walk_eq (congrFun (h.normalize_eq v htype) .start)

end Schema.Simulation

end DocumentSchema
