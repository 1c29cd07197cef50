import DocumentSchema.Pattern.Engine
import DocumentSchema.Proofs.Validation.Acceptance

namespace DocumentSchema

open Json (Value)

namespace Validation

variable {s : Schema} {type : FieldType} {v : Value} {members : List (String × Value)}

/-- A value that conforms to a type and is left as it is. -/
structure Stable (s : Schema) (type : FieldType) (v : Value) : Prop where
  conforms : Conforms s type v
  fixed : normalForm s v type = v

theorem stable_scalar {scalar : Scalar} (admits : scalar.Admits v) : Stable s (.scalar scalar) v :=
  ⟨.scalar admits, normalForm_scalar s v scalar⟩

theorem stable_array {item : FieldType} {items : List Value} (each : ∀ v ∈ items, Stable s item v) :
    Stable s (.array item) (.array items) where
  conforms := .array fun v hv ↦ (each v hv).conforms
  fixed := by
    have hitems : items.map (normalForm s · item) = items.map id :=
      List.map_congr_left fun v hv ↦ (each v hv).fixed
    rw [normalForm_array, hitems, List.map_id]

section Object

variable {id : Nat} {f : FieldDefinition}

theorem mem_keptFields_of_mem (declared : f ∈ (s.definition id).fields)
    (present : f.name ∈ members.map (·.1)) : f ∈ keptFields (s.definition id) members := by
  obtain ⟨v, hv⟩ := Json.mem_keys_iff.1 present
  exact mem_keptFields_iff.2 ⟨declared, .inl (Option.isSome_of_eq_some hv)⟩

variable (s members id)

def normalMembers : List (String × Value) :=
  (keptFields (s.definition id) members).map fun f ↦ (f.name, normalMember s members f)

variable {s members id}

theorem keys_normalMembers :
    (normalMembers s members id).map (·.1) = (keptFields (s.definition id) members).map (·.name) := by
  rw [normalMembers, List.map_map]
  rfl

variable [PatternEngine]

theorem normalMember_stable (hs : s.WellFormed)
    (present : ∀ v, members.lookup f.name = some v → Stable s f.type (normalForm s v f.type))
    (kept : f ∈ keptFields (s.definition id) members) :
    Stable s f.type (normalMember s members f) := by
  obtain ⟨declared, hkept⟩ := mem_keptFields_iff.1 kept
  cases hlookup : members.lookup f.name with
  | some v =>
    rw [normalMember, hlookup]
    exact present v hlookup
  | none =>
    obtain ⟨default, hdefault⟩ : ∃ default, f.default = some default := by
      simpa [hlookup, Option.isSome_iff_exists] using hkept
    obtain ⟨-, scalar, htype, hadmits⟩ := ((hs.definition id).fields f declared).default _ hdefault
    rw [normalMember, hlookup, hdefault, htype]
    exact stable_scalar hadmits

theorem lookup_normalMembers_iff (hs : s.WellFormed) (declared : f ∈ (s.definition id).fields)
    {w : Value} : (normalMembers s members id).lookup f.name = some w ↔
      f ∈ keptFields (s.definition id) members ∧ w = normalMember s members f := by
  by_cases kept : f ∈ keptFields (s.definition id) members
  · rw [normalMembers, lookup_of_kept hs.fields_nodup kept, Option.some_inj, eq_comm (a := w)]
    exact (and_iff_right kept).symm
  · rw [normalMembers, lookup_of_not_kept hs.fields_nodup declared kept]
    simp [kept]

theorem keptFields_normalMembers (hs : s.WellFormed) :
    keptFields (s.definition id) (normalMembers s members id) =
      keptFields (s.definition id) members := by
  refine List.filter_congr fun f declared ↦ Bool.eq_iff_iff.2 ?_
  rw [Bool.or_eq_true, Bool.or_eq_true]
  by_cases kept : f ∈ keptFields (s.definition id) members
  · have hlookup := (lookup_normalMembers_iff hs declared).2 ⟨kept, rfl⟩
    exact iff_of_true (.inl (Option.isSome_of_eq_some hlookup)) (mem_keptFields_iff.1 kept).2
  · have hlookup : (normalMembers s members id).lookup f.name = none :=
      lookup_of_not_kept hs.fields_nodup declared kept
    have habsent : ¬ ((members.lookup f.name).isSome = true ∨ f.default.isSome = true) :=
      fun h ↦ kept (mem_keptFields_iff.2 ⟨declared, h⟩)
    refine iff_of_false ?_ habsent
    rintro (hpresent | hdefault)
    · rw [hlookup] at hpresent
      cases hpresent
    · exact habsent (.inr hdefault)

theorem stable_object (hs : s.WellFormed) (isObject : type.objectId? = some id)
    (required : ∀ f ∈ (s.definition id).fields, f.required = true → f.name ∈ members.map (·.1))
    (each : ∀ f ∈ keptFields (s.definition id) members,
      Stable s f.type (normalMember s members f)) :
    Stable s type (.object (normalMembers s members id)) where
  conforms := by
    refine .object isObject (fun f declared hrequired ↦ ?_) (fun f declared w hw ↦ ?_)
      (fun _ key hkey ↦ ?_)
    · rw [keys_normalMembers]
      exact List.mem_map_of_mem (mem_keptFields_of_mem declared (required f declared hrequired))
    · obtain ⟨kept, rfl⟩ := (lookup_normalMembers_iff hs declared).1 hw
      exact (each f kept).conforms
    · rw [keys_normalMembers] at hkey
      obtain ⟨f, kept, hname⟩ := List.mem_map.1 hkey
      exact ⟨f, (mem_keptFields_iff.1 kept).1, hname⟩
  fixed := by
    rw [normalForm_of_object isObject, keptFields_normalMembers hs]
    refine congrArg Value.object (List.map_congr_left fun f kept ↦ ?_)
    have declared := (mem_keptFields_iff.1 kept).1
    rw [normalMember, (lookup_normalMembers_iff hs declared).2 ⟨kept, rfl⟩]
    exact congrArg (f.name, ·) (each f kept).fixed

end Object

variable [PatternEngine]

theorem normalForm_stable (hs : s.WellFormed) (h : Conforms s type v) :
    Stable s type (normalForm s v type) := by
  induction v, type using typedInduction with
  | scalar v scalar =>
    rw [normalForm_scalar]
    exact stable_scalar (conforms_scalar_iff.1 h)
  | wrongKind v type wrong => exact absurd h (not_conforms_of_kind wrong)
  | array items item ih =>
    rw [conforms_array_iff] at h
    rw [normalForm_array]
    refine stable_array (List.forall_mem_map.2 fun v hv ↦ ?_)
    exact ih v hv item (h v hv)
  | object members type id isObject ih =>
    obtain ⟨required, present, -⟩ := (conforms_object_iff isObject).1 h
    rw [normalForm_of_object isObject]
    refine stable_object hs isObject required fun f kept ↦ normalMember_stable hs ?_ kept
    intro v hv
    have declared := (mem_keptFields_iff.1 kept).1
    exact ih _ (Json.mem_of_lookup hv) f.type (present f declared v hv)

end Validation

namespace Root

open Blueprint
open Validation

variable {openByDefault : Bool} {source : Source} {s : Schema} {name : String} {r : Root}
  {v n : Value}

theorem validate_eq_ok_of_stable (h : Stable r.schema (.named r.id) n) :
    r.validate n = .ok n ∧ r.validateAll n = .ok n := by
  have hfindings : r.findings n = [] := (findings_eq_nil_iff n _).2 h.conforms
  exact ⟨validate_eq_ok_iff.2 ⟨hfindings, h.fixed⟩, validateAll_eq_ok_iff.2 ⟨hfindings, h.fixed⟩⟩

/-- What a root gives for a document it accepts, it accepts again in both modes, and gives once
more. -/
theorem normalizing_idempotent [PatternEngine] (compiled : compile openByDefault source = .ok s)
    (root : s.root name = .ok r) (accepted : r.validate v = .ok n) :
    r.validate n = .ok n ∧ r.validateAll n = .ok n := by
  obtain ⟨rfl, -, -⟩ := Schema.root_eq_ok root
  have hs := Blueprint.compile_wellFormed compiled
  obtain ⟨hfindings, rfl⟩ := validate_eq_ok_iff.1 accepted
  exact validate_eq_ok_of_stable (normalForm_stable hs ((findings_eq_nil_iff v _).1 hfindings))

/-- `plainPart` lacks a color, and has its members in another order than the type. -/
theorem normalizing_idempotent_plainPart :
    (compile false partsBlueprint = .ok partsSchema ∧
      partsSchema.root "Part" = .ok ⟨partsSchema, "Part", 0⟩ ∧
      (Root.mk partsSchema "Part" 0).validate plainPart = .ok plainPartInFull) ∧
    (Root.mk partsSchema "Part" 0).validate plainPartInFull = .ok plainPartInFull ∧
    (Root.mk partsSchema "Part" 0).validateAll plainPartInFull = .ok plainPartInFull := by
  have hroot : partsSchema.root "Part" = .ok ⟨partsSchema, "Part", 0⟩ := rfl
  have haccepted : (Root.mk partsSchema "Part" 0).validate plainPart = .ok plainPartInFull := by rfl
  exact ⟨⟨compile_partsBlueprint, hroot, haccepted⟩,
    normalizing_idempotent compile_partsBlueprint hroot haccepted⟩

end Root

end DocumentSchema
