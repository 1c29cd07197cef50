import DocumentSchema.Json.Number
import DocumentSchema.Proofs.Json.Rounding
import Mathlib.Order.Compare

namespace DocumentSchema.Json.Number

variable {a b c : Number}

theorem order_eq_compare_key (h : a.toInt? = none ∨ b.toInt? = none) :
    a.order b = compare a.toDouble.key b.toDouble.key := by
  cases a with
  | real d => cases b <;> rfl
  | integer m hm =>
    cases b with
    | real d => rfl
    | integer n hn => rcases h with h | h <;> cases h

theorem order_self (a : Number) : a.order a = .eq := by
  cases a with
  | integer m hm => exact compare_eq_iff_eq.2 rfl
  | real d => exact compare_eq_iff_eq.2 rfl

theorem order_swap (a b : Number) : a.order b = (b.order a).swap := by
  have hswap (m n : Int) : compare m n = (compare n m).swap := Std.OrientedCmp.eq_swap
  cases a <;> cases b <;> exact hswap _ _

theorem key_le_of_order (h : a.order b ≠ .gt) : a.toDouble.key ≤ b.toDouble.key := by
  cases a with
  | real d =>
    rw [order_eq_compare_key (.inl rfl)] at h
    exact compare_le_iff_le.1 h
  | integer m hm =>
    cases b with
    | real d =>
      rw [order_eq_compare_key (.inr rfl)] at h
      exact compare_le_iff_le.1 h
    | integer n hn =>
      have hle : m ≤ n := compare_le_iff_le.1 h
      exact Double.key_ofInt_mono hle

/-- Two whole numbers, the greater one first, and between them a binary64 number that both are
rounded to. -/
inductive Blurred : Number → Number → Number → Prop
  | mk {m n : Int} {d : Double} {hm : -0x8000000000000000 ≤ m ∧ m < 0x10000000000000000}
      {hn : -0x8000000000000000 ≤ n ∧ n < 0x10000000000000000} (less : n < m)
      (greater_rounded : (Double.ofInt m).key = d.key) (less_rounded : (Double.ofInt n).key = d.key) :
      Blurred (.integer m hm) (.real d) (.integer n hn)

theorem Blurred.not_transitive (h : Blurred a b c) :
    a.order b ≠ .gt ∧ b.order c ≠ .gt ∧ a.order c = .gt := by
  obtain ⟨less, hm, hn⟩ := h
  exact ⟨compare_le_iff_le.2 hm.le, compare_le_iff_le.2 hn.ge, compare_gt_iff_gt.2 less⟩

theorem blurred_of_not_transitive (hab : a.order b ≠ .gt) (hbc : b.order c ≠ .gt)
    (hac : a.order c = .gt) : Blurred a b c := by
  have hab' := key_le_of_order hab
  have hbc' := key_le_of_order hbc
  have hexact : ¬ (a.toInt? = none ∨ c.toInt? = none) := by
    intro hreal
    rw [order_eq_compare_key hreal, compare_gt_iff_gt] at hac
    omega
  cases a with
  | real d => exact absurd (.inl rfl) hexact
  | integer m hm =>
    cases c with
    | real d => exact absurd (.inr rfl) hexact
    | integer n hn =>
      have hless : n < m := compare_gt_iff_gt.1 hac
      have hrounded : (Double.ofInt n).key ≤ (Double.ofInt m).key := Double.key_ofInt_mono hless.le
      cases b with
      | real d => exact ⟨hless, Int.le_antisymm hab' (hbc'.trans hrounded),
          Int.le_antisymm (hrounded.trans hab') hbc'⟩
      | integer k hk =>
        -- Among whole numbers alone the order is that of the integers.
        have hmk : m ≤ k := compare_le_iff_le.1 hab
        have hkn : k ≤ n := compare_le_iff_le.1 hbc
        omega

theorem Blurred.beyond (h : Blurred a b c) :
    ∃ n, (a.toInt? = some n ∨ c.toInt? = some n) ∧ 2 ^ 53 < n.natAbs := by
  obtain @⟨m, n, d, hm, hn, less, greater_rounded, less_rounded⟩ := h
  by_cases hsmall : n.natAbs ≤ 2 ^ 53
  · refine ⟨m, .inl rfl, Nat.lt_of_not_le fun hsmall' ↦ ?_⟩
    have hapart := Double.key_ofInt_lt less hsmall hsmall'
    omega
  · exact ⟨n, .inr rfl, Nat.lt_of_not_le hsmall⟩

def boundary : Number := .integer 9007199254740992 (by decide)

def boundaryDouble : Number := .real (.ofInt 9007199254740992)

def pastBoundary : Number := .integer 9007199254740993 (by decide)

/-- The order of numbers is reflexive and swaps with its arguments, and it is transitive but for
blurred triples, which reach beyond `2 ^ 53`. -/
theorem order_transitive_unless_blurred (a b c : Number) :
    a.order a = .eq ∧ a.order b = (b.order a).swap ∧
      (a.order b ≠ .gt ∧ b.order c ≠ .gt ∧ a.order c = .gt ↔ Blurred a b c) ∧
      (Blurred a b c → ∃ n, (a.toInt? = some n ∨ c.toInt? = some n) ∧ 2 ^ 53 < n.natAbs) :=
  ⟨order_self a, order_swap a b,
    ⟨fun ⟨hab, hbc, hac⟩ ↦ blurred_of_not_transitive hab hbc hac, Blurred.not_transitive⟩,
    Blurred.beyond⟩

theorem order_boundary_blurred :
    Blurred pastBoundary boundaryDouble boundary ∧
      ∃ n, (pastBoundary.toInt? = some n ∨ boundary.toInt? = some n) ∧ 2 ^ 53 < n.natAbs := by
  obtain ⟨-, -, hblurred, hbeyond⟩ :=
    order_transitive_unless_blurred pastBoundary boundaryDouble boundary
  have h : Blurred pastBoundary boundaryDouble boundary := hblurred.1 (by decide +kernel)
  exact ⟨h, hbeyond h⟩

/-- Two whole numbers that differ may both equal a third number. -/
theorem order_not_transitive :
    ¬ ∀ a b c : Number, a.order b ≠ .gt → b.order c ≠ .gt → a.order c ≠ .gt := by
  intro htransitive
  have hequal : pastBoundary.order boundaryDouble = .eq := by decide +kernel
  have hequal' : boundaryDouble.order boundary = .eq := by decide +kernel
  have hgreater : pastBoundary.order boundary = .gt := by decide +kernel
  exact htransitive pastBoundary boundaryDouble boundary (by simp [hequal]) (by simp [hequal']) hgreater

end DocumentSchema.Json.Number
