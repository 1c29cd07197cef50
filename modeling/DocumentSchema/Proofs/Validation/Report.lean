import DocumentSchema.Pattern.Engine
import DocumentSchema.Proofs.Blueprint.Resolution
import DocumentSchema.Proofs.Validation.Modes
import DocumentSchema.Proofs.Validation.Order

namespace DocumentSchema

open Blueprint
open Json (Value)
open Validation

namespace Root

def report (r : Root) (v : Value) : List Finding :=
  match r.validateAll v with
  | .ok _ => []
  | .error all => all.toList

theorem report_eq_findings (r : Root) (v : Value) : r.report v = r.findings v := by
  unfold report
  cases h : r.validateAll v with
  | ok n => exact (validateAll_eq_ok_iff.1 h).1.symm
  | error all => exact (validateAll_eq_error_iff.1 h).symm

theorem report_exact_of_text [PatternEngine] {r : Root} {text : List UInt8} {v : Value}
    (hs : r.schema.WellFormed) (read : parseDocument text = .ok v) :
    ExactReport r.schema (.named r.id) v (r.report v) := by
  rw [report_eq_findings]
  exact findings_exact hs.fields_nodup (Json.read_distinctKeys (Except.mapError_eq_ok_iff.1 read))

/-- Collecting reports exactly the violations of a document, each once, where it is, in the order of a
walk. -/
theorem report_exact [PatternEngine] {openByDefault : Bool} {source : Source} {s : Schema} {name : String}
    {r : Root} {v : Value} (compiled : compile openByDefault source = .ok s)
    (root : s.root name = .ok r) (distinct : v.DistinctKeys) : ExactReport s (.named r.id) v (r.report v) := by
  obtain ⟨rfl, -, -⟩ := Schema.root_eq_ok root
  have hs := Blueprint.compile_wellFormed compiled
  rw [report_eq_findings]
  exact findings_exact hs.fields_nodup distinct

theorem report_exact_faultyPart :
    (compile false partsBlueprint = .ok partsSchema ∧
      partsSchema.root "Part" = .ok ⟨partsSchema, "Part", 0⟩ ∧
      faultyPart.DistinctKeys) ∧
    (Root.mk partsSchema "Part" 0).report faultyPart = [
      ⟨[.field "size"], .constraint "0 is less than the minimum 1"⟩,
      ⟨[.field "parts", .index 0, .field "parts"], .missingField⟩,
      ⟨[.field "parts", .index 0, .field "at"], .missingField⟩,
      ⟨[.field "at", .field "x"], .missingField⟩,
      ⟨[.field "at", .field "y"], .unknownField⟩] ∧
    ExactReport partsSchema (.named 0) faultyPart
      ((Root.mk partsSchema "Part" 0).report faultyPart) := by
  have hroot : partsSchema.root "Part" = .ok ⟨partsSchema, "Part", 0⟩ := rfl
  have hdistinct : faultyPart.DistinctKeys := by simp [faultyPart]
  refine ⟨⟨compile_partsBlueprint, hroot, hdistinct⟩, by rfl, ?_⟩
  exact report_exact compile_partsBlueprint hroot hdistinct

end Root

end DocumentSchema
