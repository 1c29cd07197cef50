import DocumentSchema.Proofs.Except
import DocumentSchema.Proofs.Validation.Outcome
import DocumentSchema.Root

namespace DocumentSchema

open Json (Value)
open Validation

theorem Validation.Findings.head?_toList (all : Findings) : all.toList.head? = some all.first :=
  List.head?_eq_some_head all.ne_nil

theorem Schema.root_eq_ok {s : Schema} {name : String} {r : Root} (h : s.root name = .ok r) :
    r.schema = s ∧ s.rootId name = .ok r.id ∧ (name, r.id) ∈ s.roots := by
  obtain ⟨id, hid, rfl⟩ := Except.map_eq_ok_iff.1 h
  refine ⟨rfl, hid, ?_⟩
  unfold Schema.rootId at hid
  split at hid
  case h_1 place hplace =>
    obtain rfl := Except.ok.inj hid
    exact Json.mem_of_lookup hplace
  case h_2 => cases hid

namespace Root

variable (r : Root) (v : Value)

def findings : List Finding := Validation.findings r.schema v (.named r.id)

def normalForm : Value := Validation.normalForm r.schema v (.named r.id)

theorem walk_eq (mode : Mode) : r.walk mode v =
    (if (r.findings v).isEmpty then some (r.normalForm v) else none,
      ⟨[], mode.limit (r.findings v)⟩) := by
  have h : r.walk mode v = _ := normalize_performs v (.named r.id) .start
  rw [h]
  simp [findings, normalForm, Trail.start]

variable {r v} {mode : Mode} {n : Value} {f : Finding} {all : Findings}

theorem run_eq_of_walk_eq {r' : Root} {v' : Value} (h : r.walk mode v = r'.walk mode v') :
    r.run mode v = r'.run mode v' := by
  unfold run
  split
  case h_1 n hn =>
    rw [h] at hn
    split
    case h_1 n' hn' =>
      rw [hn] at hn'
      rw [Option.some.inj hn']
    case h_2 hn' =>
      rw [hn] at hn'
      cases hn'
  case h_2 hn =>
    rw [h] at hn
    split
    case h_1 n' hn' =>
      rw [hn] at hn'
      cases hn'
    case h_2 => simp only [h]

theorem answers_eq_of_run_eq {r' : Root} {v' : Value} (h : ∀ mode, r.run mode v = r'.run mode v') :
    r.validate v = r'.validate v' ∧ r.validateAll v = r'.validateAll v' := by
  refine ⟨?_, h .collect⟩
  rw [validate, validate, h]

theorem run_eq_ok_iff : r.run mode v = .ok n ↔ r.findings v = [] ∧ r.normalForm v = n := by
  have hwalk : r.run mode v = .ok n ↔ (r.walk mode v).1 = some n := by
    unfold run
    split <;> simp_all
  rw [hwalk, walk_eq]
  by_cases h : r.findings v = [] <;> simp [h]

theorem run_eq_error_iff :
    r.run mode v = .error all ↔ mode.limit (r.findings v) = all.toList := by
  have hwalk : r.run mode v = .error all ↔
      (r.walk mode v).1 = none ∧ (r.walk mode v).2.findings = all.toList := by
    obtain ⟨found, hfound⟩ := all
    unfold run
    split <;> simp_all
  have hall := all.ne_nil
  rw [hwalk, walk_eq]
  by_cases h : r.findings v = []
  · simp [h, hall.symm]
  · simp [h]

theorem validateAll_eq_ok_iff :
    r.validateAll v = .ok n ↔ r.findings v = [] ∧ r.normalForm v = n := run_eq_ok_iff

theorem validateAll_eq_error_iff : r.validateAll v = .error all ↔ r.findings v = all.toList :=
  run_eq_error_iff

theorem validate_eq_ok_iff : r.validate v = .ok n ↔ r.findings v = [] ∧ r.normalForm v = n := by
  rw [validate, Except.mapError_eq_ok_iff, run_eq_ok_iff]

theorem validate_eq_error_iff : r.validate v = .error f ↔ (r.findings v).head? = some f := by
  rw [validate, Except.mapError_eq_error_iff]
  constructor
  · rintro ⟨all, hall, rfl⟩
    have hlimit : (r.findings v).take 1 = all.toList := run_eq_error_iff.1 hall
    rw [← all.head?_toList, ← hlimit, List.head?_take]
    rfl
  · intro h
    obtain ⟨rest, hrest⟩ := List.head?_eq_some_iff.1 h
    exact ⟨.single f, run_eq_error_iff.2 (by simp [hrest, Mode.limit, Findings.single]), rfl⟩

/-- Two answers about a document: they give the same value, or one names the first of the findings
that the other lists. -/
def Agree (first : Except Finding Value) (all : Except Findings Value) : Prop :=
  (∀ n, first = .ok n ↔ all = .ok n) ∧
    ∀ f, first = .error f ↔ ∃ found, all = .error found ∧ found.toList.head? = some f

theorem agree_validate (r : Root) (v : Value) : Agree (r.validate v) (r.validateAll v) := by
  refine ⟨fun n ↦ by rw [validate_eq_ok_iff, validateAll_eq_ok_iff], fun f ↦ ?_⟩
  rw [validate_eq_error_iff]
  constructor
  · intro h
    have hne : r.findings v ≠ [] := List.ne_nil_of_mem (List.mem_of_mem_head? h)
    exact ⟨⟨r.findings v, hne⟩, validateAll_eq_error_iff.2 rfl, h⟩
  · rintro ⟨found, hfound, h⟩
    rw [validateAll_eq_error_iff.1 hfound]
    exact h

theorem agree_validateText (r : Root) (text : List UInt8) :
    Agree (r.validateText text) (r.validateTextAll text) := by
  cases h : parseDocument text with
  | ok v =>
    have htext : r.validateText text = r.validate v := by rw [validateText, h]; rfl
    have hall : r.validateTextAll text = r.validateAll v := by rw [validateTextAll, h]; rfl
    rw [htext, hall]
    exact agree_validate r v
  | error f =>
    have htext : r.validateText text = .error f := by rw [validateText, h]; rfl
    have hall : r.validateTextAll text = .error (.single f) := by rw [validateTextAll, h]; rfl
    rw [htext, hall]
    exact ⟨by simp, by simp [Findings.single]⟩

/-- Failing fast and collecting accept the same documents with the same normal form. What they
reject, they reject for the same reason: collecting lists at least one finding, and failing fast gives
the first. This includes documents given as text, malformed text among them. -/
theorem failFast_agrees_with_collect (r : Root) :
    (∀ v, Agree (r.validate v) (r.validateAll v)) ∧
      ∀ text, Agree (r.validateText text) (r.validateTextAll text) :=
  ⟨agree_validate r, agree_validateText r⟩

end Root

end DocumentSchema
