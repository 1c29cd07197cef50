import DocumentSchema.Pattern.Engine
import DocumentSchema.Proofs.Blueprint.Resolution
import DocumentSchema.Proofs.Validation.Conformance
import DocumentSchema.Proofs.Validation.Modes

namespace DocumentSchema.Root

open Blueprint
open Json (Value)
open Validation

variable {openByDefault : Bool} {source : Source} {s : Schema} {name : String} {r : Root} {v : Value}

theorem validate_eq_ok_iff_conforms [PatternEngine] (hs : r.schema.WellFormed) {n : Value} :
    r.validate v = .ok n ↔
      Conforms r.schema (.named r.id) v ∧ NormalForm r.schema (.named r.id) v n := by
  rw [validate_eq_ok_iff]
  constructor
  · rintro ⟨hfindings, rfl⟩
    have hconforms := (findings_eq_nil_iff v _).1 hfindings
    exact ⟨hconforms, normalForm_spec hs.fields_nodup hconforms⟩
  · rintro ⟨hconforms, hnormal⟩
    exact ⟨(findings_eq_nil_iff v _).2 hconforms, (hnormal.eq_normalForm hs.fields_nodup).symm⟩

theorem exists_validate_eq_ok_iff :
    (∃ n, r.validate v = .ok n) ↔ Conforms r.schema (.named r.id) v := by
  simp only [validate_eq_ok_iff, exists_and_left, exists_eq', and_true]
  exact findings_eq_nil_iff v _

/-- A root of a compiled schema accepts a document exactly if it conforms to the type of the root,
and gives its normal form, which is the only one. -/
theorem accepts_exactly_conforming [PatternEngine] (compiled : compile openByDefault source = .ok s)
    (root : s.root name = .ok r) :
    ((∃ n, r.validate v = .ok n) ↔ Conforms s (.named r.id) v) ∧
      (∀ n, r.validate v = .ok n ↔
        Conforms s (.named r.id) v ∧ NormalForm s (.named r.id) v n) ∧
      ∀ n n', NormalForm s (.named r.id) v n → NormalForm s (.named r.id) v n' → n = n' := by
  obtain ⟨rfl, -, -⟩ := Schema.root_eq_ok root
  have hs := Blueprint.compile_wellFormed compiled
  refine ⟨exists_validate_eq_ok_iff, fun n ↦ validate_eq_ok_iff_conforms hs, fun n n' h h' ↦ ?_⟩
  rw [h.eq_normalForm hs.fields_nodup, h'.eq_normalForm hs.fields_nodup]

theorem accepts_plainPart :
    (compile false partsBlueprint = .ok partsSchema ∧
      partsSchema.root "Part" = .ok ⟨partsSchema, "Part", 0⟩) ∧
    (Root.mk partsSchema "Part" 0).validate plainPart = .ok plainPartInFull ∧
    Conforms partsSchema (.named 0) plainPart ∧
    NormalForm partsSchema (.named 0) plainPart plainPartInFull := by
  have hroot : partsSchema.root "Part" = .ok ⟨partsSchema, "Part", 0⟩ := rfl
  have haccepts : (Root.mk partsSchema "Part" 0).validate plainPart = .ok plainPartInFull := by rfl
  obtain ⟨-, hexactly, -⟩ := accepts_exactly_conforming compile_partsBlueprint hroot
  exact ⟨⟨compile_partsBlueprint, hroot⟩, haccepts, (hexactly plainPartInFull).1 haccepts⟩

end DocumentSchema.Root
