import DocumentSchema.Validation.Scalar

namespace DocumentSchema

open Json (Number Value)
open Validation

namespace Validation.BoundFailure

def turn : BoundFailure → Nat
  | belowMinimum _ _ => 0
  | aboveMaximum _ _ => 1
  | tooShort _ _ => 2
  | tooLong _ _ => 3
  | noMatch _ _ => 4

end Validation.BoundFailure

namespace Constraints

/-- A value fails one of the constraints. -/
inductive Misses (c : Constraints) : Value → BoundFailure → Prop
  | minimum {n m : Number} (given : c.minimum = some m) (below : n.order m = .lt) :
      Misses c (.number n) (.belowMinimum n m)
  | maximum {n m : Number} (given : c.maximum = some m) (above : n.order m = .gt) :
      Misses c (.number n) (.aboveMaximum n m)
  | minLength {text : String} {m : Nat} (given : c.minLength = some m) (short : text.length < m) :
      Misses c (.string text) (.tooShort text.length m)
  | maxLength {text : String} {m : Nat} (given : c.maxLength = some m) (long : m < text.length) :
      Misses c (.string text) (.tooLong text.length m)
  | pattern {text : String} {p : Pattern} (given : c.pattern = some p)
      (unmatched : p.isFoundIn text = false) : Misses c (.string text) (.noMatch text p.source)

/-- A value fails a constraint, and none of those that are checked before it. -/
def FirstMissed (c : Constraints) (v : Value) (failure : BoundFailure) : Prop :=
  c.Misses v failure ∧ ∀ other, c.Misses v other → failure.turn ≤ other.turn

def Met (c : Constraints) (v : Value) : Prop := ∀ failure, ¬ c.Misses v failure

def failure? (c : Constraints) : Value → Option BoundFailure
  | .number n => numberFailure? c n
  | .string text => textFailure? c text
  | _ => .none

variable {c : Constraints} {v : Value} {failure : BoundFailure}

theorem Misses.eq_of_turn {other : BoundFailure} (h : c.Misses v failure) (h' : c.Misses v other)
    (same : failure.turn = other.turn) : failure = other := by
  cases h <;> cases h' <;> simp_all [BoundFailure.turn]

theorem FirstMissed.unique {other : BoundFailure} (h : c.FirstMissed v failure)
    (h' : c.FirstMissed v other) : failure = other :=
  h.1.eq_of_turn h'.1 (Nat.le_antisymm (h.2 _ h'.1) (h'.2 _ h.1))

theorem met_iff : c.Met v ↔
    (∀ n m, v = .number n → c.minimum = some m → n.order m ≠ .lt) ∧
    (∀ n m, v = .number n → c.maximum = some m → n.order m ≠ .gt) ∧
    (∀ text m, v = .string text → c.minLength = some m → m ≤ text.length) ∧
    (∀ text m, v = .string text → c.maxLength = some m → text.length ≤ m) ∧
    ∀ text p, v = .string text → c.pattern = some p → p.isFoundIn text = true := by
  constructor
  · intro h
    refine ⟨?_, ?_, ?_, ?_, ?_⟩
    · rintro n m rfl given below
      exact h _ (.minimum given below)
    · rintro n m rfl given above
      exact h _ (.maximum given above)
    · rintro text m rfl given
      exact Nat.not_lt.1 fun short ↦ h _ (.minLength given short)
    · rintro text m rfl given
      exact Nat.not_lt.1 fun long ↦ h _ (.maxLength given long)
    · rintro text p rfl given
      exact Bool.of_not_eq_false fun unmatched ↦ h _ (.pattern given unmatched)
  · rintro ⟨hminimum, hmaximum, hminLength, hmaxLength, hpattern⟩ failure hmiss
    cases hmiss with
    | minimum given below => exact hminimum _ _ rfl given below
    | maximum given above => exact hmaximum _ _ rfl given above
    | minLength given short => exact Nat.not_lt.2 (hminLength _ _ rfl given) short
    | maxLength given long => exact Nat.not_lt.2 (hmaxLength _ _ rfl given) long
    | pattern given unmatched => simp [hpattern _ _ rfl given] at unmatched

theorem firstMissed_of_failure? (h : c.failure? v = some failure) : c.FirstMissed v failure := by
  cases v with
  | number n =>
    simp only [failure?, numberFailure?, Option.or_eq_some_iff, Option.map_eq_some_iff,
      Option.filter_eq_some_iff, decide_eq_true_eq] at h
    rcases h with ⟨m, ⟨given, below⟩, rfl⟩ | ⟨notBelow, m, ⟨given, above⟩, rfl⟩
    · exact ⟨.minimum given below, fun other _ ↦ Nat.zero_le _⟩
    · refine ⟨.maximum given above, fun other hother ↦ ?_⟩
      cases hother with
      | minimum given below => simp_all
      | maximum given above => exact Nat.le_refl _
  | string text =>
    simp only [failure?, textFailure?, Option.or_eq_some_iff, Option.map_eq_some_iff,
      Option.filter_eq_some_iff, decide_eq_true_eq, Option.or_eq_none_iff, Option.map_eq_none_iff,
      Option.filter_eq_none_iff, decide_eq_true_eq, Nat.not_lt, Bool.not_eq_true'] at h
    rcases h with (⟨m, ⟨given, short⟩, rfl⟩ | ⟨notShort, m, ⟨given, long⟩, rfl⟩) |
      ⟨⟨notShort, notLong⟩, p, ⟨given, unmatched⟩, rfl⟩
    · refine ⟨.minLength given short, fun other hother ↦ ?_⟩
      cases hother <;> simp [BoundFailure.turn]
    · refine ⟨.maxLength given long, fun other hother ↦ ?_⟩
      cases hother with
      | minLength given short => exact absurd short (Nat.not_lt.2 (notShort _ given))
      | maxLength | pattern => simp [BoundFailure.turn]
    · refine ⟨.pattern given unmatched, fun other hother ↦ ?_⟩
      cases hother with
      | minLength given short => exact absurd short (Nat.not_lt.2 (notShort _ given))
      | maxLength given long => exact absurd long (Nat.not_lt.2 (notLong _ given))
      | pattern => exact Nat.le_refl _
  | null | bool | array | object => cases h

theorem failure?_ne_none (h : c.Misses v failure) : c.failure? v ≠ .none := by
  cases h with
  | minimum given bound | maximum given bound => simp [failure?, numberFailure?, given, bound]
  | @minLength text m given short =>
    have hfilter : (some m).filter (text.length < ·) = some m := by simp [short]
    simp [failure?, textFailure?, given, hfilter]
  | @maxLength text m given long =>
    have hfilter : (some m).filter (· < text.length) = some m := by simp [long]
    simp [failure?, textFailure?, given, hfilter]
  | pattern given unmatched => simp [failure?, textFailure?, given, unmatched]

theorem failure?_eq_some_iff : c.failure? v = some failure ↔ c.FirstMissed v failure := by
  refine ⟨firstMissed_of_failure?, fun h ↦ ?_⟩
  obtain ⟨found, hfound⟩ := Option.ne_none_iff_exists'.1 (failure?_ne_none h.1)
  rw [hfound, (firstMissed_of_failure? hfound).unique h]

theorem failure?_eq_none_iff : c.failure? v = .none ↔ c.Met v := by
  constructor
  · intro h failure hmiss
    exact failure?_ne_none hmiss h
  · intro h
    rw [Option.eq_none_iff_forall_ne_some]
    intro found hfound
    exact h found (firstMissed_of_failure? hfound).1

end Constraints

namespace Validation

variable {scalar : Scalar} {v : Value}

theorem scalarViolation?_of_kind (h : isOfKind scalar.kind v = true) :
    scalarViolation? scalar v =
      (scalar.constraints.failure? v).map fun f ↦ .constraint f.message := by
  cases v <;> simp [scalarViolation?, h, Constraints.failure?]

theorem scalarViolation?_of_not_kind (h : isOfKind scalar.kind v = false) :
    scalarViolation? scalar v = some (.typeMismatch scalar.kind.toKind v.kind) := by
  simp [scalarViolation?, h]

end Validation

/-- A scalar type admits the values of its kind that meet all its constraints. -/
def Scalar.Admits (scalar : Scalar) (v : Value) : Prop :=
  isOfKind scalar.kind v = true ∧ scalar.constraints.Met v

theorem Scalar.scalarViolation?_eq_none_iff {scalar : Scalar} {v : Value} :
    scalarViolation? scalar v = none ↔ scalar.Admits v := by
  cases h : isOfKind scalar.kind v with
  | false => simp [scalarViolation?_of_not_kind h, Admits, h]
  | true =>
    rw [scalarViolation?_of_kind h, Option.map_eq_none_iff, Constraints.failure?_eq_none_iff]
    simp [Admits, h]

end DocumentSchema
