import DocumentSchema.Pattern.Engine
import DocumentSchema.Proofs.Blueprint.Resolution
import DocumentSchema.Proofs.Validation.Modes
import DocumentSchema.Proofs.Validation.Replacement

namespace DocumentSchema

open Blueprint
open Json (Value)
open Validation

namespace Validation

variable {s : Schema} {type : FieldType} {id : Nat} {f : FieldDefinition} {d : Value}
  {before after : List (String × Value)}

variable [PatternEngine]

theorem findings_default (hs : s.WellFormed) (declared : f ∈ (s.definition id).fields)
    (default : f.default = some d) :
    f.required = false ∧ findings s d f.type = [] ∧ normalForm s d f.type = d := by
  obtain ⟨hrequired, scalar, hscalar, hadmits⟩ :=
    ((hs.definition id).fields f declared).default d default
  have hviolation : scalarViolation? scalar d = none :=
    Scalar.scalarViolation?_eq_none_iff.2 hadmits
  refine ⟨hrequired, ?_, ?_⟩
  · rw [hscalar, findings_scalar, hviolation]
    rfl
  · rw [hscalar, normalForm_scalar]

theorem fieldComesToSame_default {members members' : List (String × Value)} (hs : s.WellFormed)
    (declared : f ∈ (s.definition id).fields) (default : f.default = some d)
    (absent : members.lookup f.name = none) (present : members'.lookup f.name = some d) :
    FieldComesToSame Eq s members members' f := by
  obtain ⟨hrequired, hfindings, hnormal⟩ := findings_default hs declared default
  constructor
  case findings =>
    rw [fieldFindings_of_absent absent, fieldFindings_of_present present, hrequired, hfindings]
    rfl
  case normalField =>
    intro _
    rw [normalField, normalField, Json.lookup_map_snd, Json.lookup_map_snd, absent, present,
      default]
    simp [hnormal]

theorem comesToSame_default (hs : s.WellFormed) (isObject : type.objectId? = some id)
    (declared : f ∈ (s.definition id).fields) (default : f.default = some d)
    (absent : (before ++ after).lookup f.name = none) :
    ComesToSame Eq s type (.object (before ++ after))
      (.object (before ++ (f.name, d) :: after)) := by
  refine comesToSame_object local_eq isObject (fun g hg ↦ ?_) ?_
  · by_cases hname : g.name = f.name
    · obtain rfl := List.inj_on_of_nodup_map (hs.fields_nodup id) hg declared hname
      have hpresent : (before ++ (g.name, d) :: after).lookup g.name = some d := by
        rw [Json.lookup_insert absent, if_pos rfl]
      exact fieldComesToSame_default hs declared default absent hpresent
    · refine fieldComesToSame_of_lookup_eq local_eq ?_
      rw [Json.lookup_insert absent, if_neg hname]
  · -- The new key is declared, so it is not among those that a closed type refuses.
    have hdeclared : ((s.definition id).field? f.name).isNone = false := by
      rw [← Bool.not_eq_true, TypeDefinition.field?_isNone_iff]
      exact fun h ↦ h f declared rfl
    simp [refusedKeys, hdeclared]

end Validation

namespace Root

variable {openByDefault : Bool} {source : Source} {s : Schema} {name : String} {r : Root}
  {v v' : Value}

theorem walk_eq_of_comesToSame (h : ComesToSame Eq r.schema (.named r.id) v v') (mode : Mode) :
    r.walk mode v = r.walk mode v' := by
  have hfindings : r.findings v = r.findings v' := h.findings
  rw [walk_eq, walk_eq]
  by_cases hnone : r.findings v = []
  · have hnormal : r.normalForm v = r.normalForm v' := h.normalForm hnone
    rw [hfindings, hnormal]
  · rw [← hfindings]
    simp [hnone]

/-- Writing out the default of an absent field, at any place that is looked at as an object and
anywhere among its members, changes nothing about what validation comes to in either mode. -/
theorem validate_insert_default [PatternEngine] {p : Path} {t : FieldType} {id : Nat} {f : FieldDefinition}
    {d : Value} {before after : List (String × Value)}
    (compiled : compile openByDefault source = .ok s) (root : s.root name = .ok r)
    (visited : Visited s (.named r.id) v p t (.object (before ++ after)))
    (isObject : t.objectId? = some id) (declared : f ∈ (s.definition id).fields)
    (default : f.default = some d) (absent : (before ++ after).lookup f.name = none) :
    r.validate (replaceAt (.object (before ++ (f.name, d) :: after)) p v) = r.validate v ∧
      r.validateAll (replaceAt (.object (before ++ (f.name, d) :: after)) p v) =
        r.validateAll v := by
  have hs := Blueprint.compile_wellFormed compiled
  obtain ⟨rfl, -, -⟩ := Schema.root_eq_ok root
  have hobject := comesToSame_default hs isObject declared default absent
  have hsame := visited.comesToSame local_eq hs.fields_nodup hobject
  have hrun : ∀ mode, r.run mode _ = r.run mode v := fun mode ↦
    (run_eq_of_walk_eq (walk_eq_of_comesToSame hsame mode)).symm
  constructor
  · rw [validate, hrun, validate]
  · exact hrun .collect

/-- The part inside the faulty one gets its color, after its size. -/
theorem validate_insert_default_faultyPart :
    ((compile false partsBlueprint = .ok partsSchema ∧
      partsSchema.root "Part" = .ok ⟨partsSchema, "Part", 0⟩) ∧
    (∃ f ∈ (partsSchema.definition 0).fields, f.name = "color" ∧ f.default = some (.string "red")) ∧
    Visited partsSchema (.named 0) faultyPart [.field "parts", .index 0] (.named 0)
      (.object ([("size", .number (.integer 1 (by decide)))] ++ []))) ∧
    replaceAt (.object [("size", .number (.integer 1 (by decide))), ("color", .string "red")])
      [.field "parts", .index 0] faultyPart = .object [
        ("size", .number (.integer 0 (by decide))),
        ("parts", .array [
          .object [("size", .number (.integer 1 (by decide))), ("color", .string "red")]]),
        ("at", .object [("y", .number (.integer 2 (by decide)))])] ∧
    (Root.mk partsSchema "Part" 0).validateAll (replaceAt
      (.object [("size", .number (.integer 1 (by decide))), ("color", .string "red")])
      [.field "parts", .index 0] faultyPart) =
      (Root.mk partsSchema "Part" 0).validateAll faultyPart := by
  have hroot : partsSchema.root "Part" = .ok ⟨partsSchema, "Part", 0⟩ := rfl
  have hcolor : ⟨"color", .scalar ⟨.string, .none⟩, false, some (.string "red")⟩ ∈
      (partsSchema.definition 0).fields := by simp [partsSchema, Schema.definition]
  have hparts : ⟨"parts", .array (.named 0), true, none⟩ ∈ (partsSchema.definition 0).fields := by
    simp [partsSchema, Schema.definition]
  have hvisited : Visited partsSchema (.named 0) faultyPart [.field "parts", .index 0] (.named 0)
      (.object ([("size", .number (.integer 1 (by decide)))] ++ [])) :=
    .member rfl hparts rfl (.item rfl .here)
  have hsame := validate_insert_default compile_partsBlueprint hroot hvisited rfl hcolor rfl rfl
  exact ⟨⟨⟨compile_partsBlueprint, hroot⟩, ⟨_, hcolor, rfl, rfl⟩, hvisited⟩, by rfl, hsame.2⟩

end Root

end DocumentSchema
