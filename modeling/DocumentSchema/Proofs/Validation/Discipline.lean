import DocumentSchema.Proofs.Validation.Modes

namespace DocumentSchema

open Json (Value)

namespace Validation

variable {α : Type} {mode : Mode} {t : Trail} {left : Option α × Trail}

/-- What a walk from a trail leaves when it found the given findings. -/
structure Leaves (mode : Mode) (t : Trail) (left : Option α × Trail) (found : List Finding) :
    Prop where
  path_eq : left.2.path = t.path
  findings_eq : left.2.findings = t.findings ++ found
  below : ∀ f ∈ found, t.path <+: f.path
  isSome_iff : left.1.isSome ↔ found = []
  single : mode = .failFast → left.1 = none → ∃ f, found = [f]

theorem Walk.Disciplined.leaves {w : Walk α} (h : Disciplined mode w) (t : Trail) :
    ∃ found, Leaves mode t (w t) found := by
  obtain ⟨found, after, below, none_iff, short⟩ := h t
  have isSome_iff : (w t).1.isSome ↔ found = [] := by
    rw [Option.isSome_iff_ne_none, Ne, none_iff, not_not]
  refine ⟨found, by rw [after], by rw [after], below, isSome_iff, ?_⟩
  intro failsFast rejected
  have nonempty : found ≠ [] := none_iff.1 rejected
  have atMostOne : found.length ≤ 1 := short failsFast
  have positive : 0 < found.length := List.length_pos_iff.2 nonempty
  exact List.length_eq_one_iff.1 (by omega)

theorem Leaves.findings_of_start {found : List Finding} (h : Leaves mode .start left found) :
    left.2.findings = found := h.findings_eq

structure Reports (mode : Mode) (left : Option α × Trail) (all : Findings) : Prop where
  rejected : left.1 = none
  toList_eq : left.2.findings = all.toList
  ne_nil : left.2.findings ≠ []
  first_eq : left.2.findings[0]? = some all.first
  single : mode = .failFast → left.2.findings = [all.first]

theorem Leaves.reports {found : List Finding} (h : Leaves mode .start left found)
    (rejected : left.1 = none) {all : Findings} (hall : left.2.findings = all.toList) :
    Reports mode left all := by
  have first_eq : left.2.findings[0]? = some all.first := by
    rw [hall, ← List.head?_eq_getElem?, all.head?_toList]
  refine ⟨rejected, hall, hall ▸ all.ne_nil, first_eq, fun failsFast ↦ ?_⟩
  obtain ⟨f, rfl⟩ := h.single failsFast rejected
  rw [h.findings_of_start] at first_eq ⊢
  rw [Option.some.inj first_eq]

end Validation

open Validation

namespace Root

variable (r : Root) (mode : Mode) (v : Value)

theorem walk_leaves : ∃ found, Leaves mode .start (r.walk mode v) found :=
  (normalize_disciplined r.schema v (.named r.id)).leaves .start

theorem run_eq_error_iff_reports (all : Findings) :
    r.run mode v = .error all ↔ Reports mode (r.walk mode v) all := by
  obtain ⟨found, h⟩ := r.walk_leaves mode v
  constructor
  · intro hrun
    unfold run at hrun
    split at hrun
    case h_1 => cases hrun
    case h_2 rejected =>
      obtain rfl := Except.error.inj hrun
      exact h.reports rejected rfl
  · intro hreports
    unfold run
    split
    case h_1 n hn =>
      rw [hreports.rejected] at hn
      cases hn
    case h_2 =>
      obtain ⟨toList, ne_nil⟩ := all
      simp only [hreports.toList_eq]

theorem rejects_iff : (r.walk mode v).1 = none ↔ ∃ all, r.run mode v = .error all := by
  constructor
  · intro rejected
    exact ⟨⟨_, walk_findings_ne_nil rejected⟩, (r.run_eq_error_iff_reports mode v _).2
      ((r.walk_leaves mode v).choose_spec.reports rejected rfl)⟩
  · rintro ⟨all, h⟩
    exact ((r.run_eq_error_iff_reports mode v all).1 h).rejected

theorem validateTextAll_eq_error_iff (text : List UInt8) (all : Findings) :
    r.validateTextAll text = .error all ↔
      (∃ f, parseDocument text = .error f ∧ all = .single f) ∨
        ∃ v, parseDocument text = .ok v ∧ Reports .collect (r.walk .collect v) all := by
  rw [validateTextAll]
  cases parseDocument text with
  | error f => simp [Except.mapError, Except.bind, eq_comm]
  | ok v => simpa [Except.mapError, Except.bind, validateAll] using r.run_eq_error_iff_reports .collect v all

end Root

/-- From any trail and in either mode, the walk down a value under a type and those down the members
of an object and the items of an array come back to the path of the trail and add findings below it,
none if they give a value, and exactly one if they fail fast. A run ends in findings exactly if its
walk gives no value. These are all that the walk found, and there is a first one. So it is for a
document that is given as text, unless the text is malformed, which is one finding. -/
theorem walks_keep_discipline (s : Schema) (mode : Mode) (t : Trail) :
    (∀ v type, ∃ found, Leaves mode t (normalize s mode v type t) found) ∧
      (∀ d members,
        ∃ found, Leaves mode t (normalizeObject mode d (memberWalks s mode members) t) found) ∧
      (∀ item items,
        ∃ found, Leaves mode t (normalizeArray mode item (itemWalks s mode items) t) found) ∧
      (∀ (r : Root) v, ((r.walk mode v).1 = none ↔ ∃ all, r.run mode v = .error all) ∧
        ∀ all, r.run mode v = .error all ↔ Reports mode (r.walk mode v) all) ∧
      ∀ (r : Root) text all, r.validateTextAll text = .error all ↔
        (∃ f, parseDocument text = .error f ∧ all = .single f) ∨
          ∃ v, parseDocument text = .ok v ∧ Reports .collect (r.walk .collect v) all := by
  refine ⟨fun v type ↦ ?_, fun d members ↦ ?_, fun item items ↦ ?_, fun r v ↦ ?_,
    fun r ↦ r.validateTextAll_eq_error_iff⟩
  · exact (normalize_disciplined s v type).leaves t
  · exact (normalizeObject_disciplined (memberWalks_disciplined s members) d).leaves t
  · exact (normalizeArray_disciplined (itemWalks_disciplined s items) item).leaves t
  · exact ⟨r.rejects_iff mode v, r.run_eq_error_iff_reports mode v⟩

end DocumentSchema
