import DocumentSchema.Proofs.Json.Rounding
import Mathlib.Tactic.Ring

namespace DocumentSchema.Json

section Quotients

variable {num den k : Nat}

theorem lt_roundQuotient (hden : 0 < den) (h : (2 * k + 1) * den ≤ 2 * num)
    (hstrict : k % 2 = 0 → (2 * k + 1) * den < 2 * num) : k < roundQuotient num den := by
  have hround := le_roundQuotient num den
  rcases Nat.lt_or_ge k (num / den) with hlt | hge
  · omega
  have hdivision := Nat.div_add_mod num den
  have hremainder := Nat.mod_lt num hden
  rw [Nat.add_mul, Nat.mul_assoc, Nat.mul_comm k] at h hstrict
  have hk : num / den = k := by
    refine Nat.le_antisymm hge (Nat.le_of_not_lt fun hlt ↦ ?_)
    have hmul := Nat.mul_le_mul_left den hlt
    rw [Nat.mul_succ] at hmul
    omega
  rw [hk] at hdivision
  have hcompare : den ≤ 2 * (num % den) := by omega
  unfold roundQuotient
  rw [hk]
  split
  case h_1 hless =>
    rw [Nat.compare_eq_lt] at hless
    omega
  case h_2 => exact Nat.lt_succ_self k
  case h_3 hequal =>
    rw [Nat.compare_eq_eq] at hequal
    have hodd : ¬ k % 2 = 0 := fun heven ↦ by
      have hless := hstrict heven
      omega
    rw [if_neg hodd]
    exact Nat.lt_succ_self k

theorem roundQuotient_le_of_le (hden : 0 < den) (h : 2 * num ≤ (2 * k + 1) * den)
    (hstrict : k % 2 = 1 → 2 * num < (2 * k + 1) * den) : roundQuotient num den ≤ k := by
  have hround := roundQuotient_le num den
  rcases Nat.lt_or_ge (num / den) k with hlt | hge
  · omega
  have hdivision := Nat.div_add_mod num den
  rw [Nat.add_mul, Nat.mul_assoc, Nat.mul_comm k] at h hstrict
  have hk : num / den = k := by
    refine Nat.le_antisymm (Nat.le_of_not_lt fun hlt ↦ ?_) hge
    have hmul := Nat.mul_le_mul_left den hlt
    rw [Nat.mul_succ] at hmul
    omega
  rw [hk] at hdivision
  have hcompare : 2 * (num % den) ≤ den := by omega
  unfold roundQuotient
  rw [hk]
  split
  case h_1 => exact Nat.le_refl k
  case h_2 hgreater =>
    rw [Nat.compare_eq_gt] at hgreater
    omega
  case h_3 hequal =>
    rw [Nat.compare_eq_eq] at hequal
    have heven : k % 2 = 0 := by
      rcases Nat.mod_two_eq_zero_or_one k with heven | hodd
      · exact heven
      · have hless := hstrict hodd
        omega
    rw [if_pos heven]

end Quotients

namespace Rank

/-- The place of a magnitude among those of its scale, or how many units of its scale it has. -/
def significand (rank : Nat) : Nat := rank - scale rank * binade

variable (rank : Nat) {num den : Nat}

theorem rank_eq : rank = scale rank * binade + significand rank := by
  unfold significand scale
  have hquotient : (rank / binade - 1) * binade ≤ rank :=
    Nat.le_trans (Nat.mul_le_mul_right _ (Nat.sub_le _ _)) (Nat.div_mul_le_self _ _)
  omega

theorem units_eq : units rank = significand rank * 2 ^ scale rank := Nat.shiftLeft_eq _ _

theorem significand_lt_two_binade : significand rank < 2 * binade := by
  unfold significand scale
  simp only [binade]
  omega

theorem binade_le_significand (h : 0 < scale rank) : binade ≤ significand rank := by
  unfold significand scale at *
  simp only [binade] at *
  omega

theorem significand_mod_two : significand rank % 2 = rank % 2 := by
  have heven : scale rank * binade % 2 = 0 := by
    simp only [binade]
    omega
  have hrank := rank_eq rank
  omega

theorem units_succ : units (rank + 1) = units rank + 2 ^ scale rank := by
  have hrank := rank_eq rank
  have hsignificand := significand_lt_two_binade rank
  rcases Nat.lt_or_ge (significand rank + 1) (2 * binade) with hinside | hlast
  · have hscale : scale (rank + 1) = scale rank := by
      have hlow := binade_le_significand rank
      unfold scale at *
      simp only [binade] at *
      omega
    have hnext : significand (rank + 1) = significand rank + 1 := by
      have hrank' := rank_eq (rank + 1)
      rw [hscale] at hrank'
      omega
    rw [units_eq, units_eq, hscale, hnext, Nat.succ_mul]
  · have hscale : scale (rank + 1) = scale rank + 1 := by
      unfold scale at *
      simp only [binade] at *
      omega
    have hnext : significand (rank + 1) = binade := by
      have hrank' := rank_eq (rank + 1)
      rw [hscale, Nat.succ_mul] at hrank'
      omega
    have hfull : significand rank + 1 = 2 * binade := by omega
    rw [units_eq, units_eq, hscale, hnext, ← Nat.succ_mul, Nat.succ_eq_add_one, hfull, Nat.pow_succ]
    ring

theorem shiftLeft_pos (hden : 0 < den) (k : Nat) : 0 < den <<< k := by
  rw [Nat.shiftLeft_eq]
  exact Nat.mul_pos hden (Nat.two_pow_pos k)

theorem two_mul_shiftLeft_le (den : Nat) {k k' : Nat} (h : k < k') : 2 * (den <<< k) ≤ den <<< k' := by
  rw [Nat.shiftLeft_eq, Nat.shiftLeft_eq, Nat.mul_left_comm, ← Nat.pow_succ']
  exact Nat.mul_le_mul_left _ (Nat.pow_le_pow_right Nat.two_pos h)

theorem midpoint_eq (den : Nat) : (units rank + units (rank + 1)) * den =
    (2 * significand rank + 1) * (den <<< scale rank) := by
  rw [units_succ, units_eq, Nat.shiftLeft_eq]
  ring

theorem lt_nearest (hden : 0 < den) (h : (units rank + units (rank + 1)) * den ≤ 2 * (num <<< 1074))
    (hstrict : rank % 2 = 0 → (units rank + units (rank + 1)) * den < 2 * (num <<< 1074)) :
    rank < nearest num den := by
  rw [midpoint_eq] at h hstrict
  have hrank := rank_eq rank
  have hsignificand := significand_lt_two_binade rank
  rcases Nat.lt_trichotomy (scaleOf num den) (scale rank) with hlt | heq | hgt
  · -- The ratio is of a smaller scale, so it lies below.
    have hbelow := significand_lt num den
    have hlow := binade_le_significand rank (Nat.zero_lt_of_lt hlt)
    rw [Nat.div_lt_iff_lt_mul (shiftLeft_pos hden _), Nat.mul_comm 2, Nat.mul_assoc] at hbelow
    have hunits := Nat.mul_le_mul_left binade (two_mul_shiftLeft_le den hlt)
    have hlow := Nat.mul_le_mul_right (den <<< scale rank) hlow
    rw [Nat.add_mul, Nat.mul_assoc] at h
    omega
  · have hround := lt_roundQuotient (shiftLeft_pos hden _) h
      (by rwa [significand_mod_two])
    rw [nearest_eq, heq]
    omega
  · have habove := le_significand (Nat.zero_lt_of_lt hgt)
    have hround := le_roundQuotient (num <<< 1074) (den <<< scaleOf num den)
    have hscale : (scale rank + 1) * binade ≤ scaleOf num den * binade := Nat.mul_le_mul_right _ hgt
    rw [Nat.succ_mul] at hscale
    rw [nearest_eq]
    omega

theorem nearest_le (hden : 0 < den) (h : 2 * (num <<< 1074) ≤ (units rank + units (rank + 1)) * den)
    (hstrict : rank % 2 = 1 → 2 * (num <<< 1074) < (units rank + units (rank + 1)) * den) :
    nearest num den ≤ rank := by
  rw [midpoint_eq] at h hstrict
  have hrank := rank_eq rank
  have hsignificand := significand_lt_two_binade rank
  rcases Nat.lt_trichotomy (scaleOf num den) (scale rank) with hlt | heq | hgt
  · have hbelow := significand_lt num den
    have hround := roundQuotient_le (num <<< 1074) (den <<< scaleOf num den)
    have hlow := binade_le_significand rank (Nat.zero_lt_of_lt hlt)
    have hscale : (scaleOf num den + 1) * binade ≤ scale rank * binade := Nat.mul_le_mul_right _ hlt
    rw [Nat.succ_mul] at hscale
    rw [nearest_eq]
    omega
  · have hround := roundQuotient_le_of_le (shiftLeft_pos hden _) h
      (by rwa [significand_mod_two])
    rw [nearest_eq, heq]
    omega
  · -- The ratio is of a greater scale, so it lies above.
    have habove := le_significand (Nat.zero_lt_of_lt hgt)
    rw [Nat.le_div_iff_mul_le (shiftLeft_pos hden _)] at habove
    have hunits := Nat.mul_le_mul_left binade (two_mul_shiftLeft_le den hgt)
    have hpositive := shiftLeft_pos hden (scale rank)
    have hhigh : (significand rank + 1) * (den <<< scale rank) ≤ 2 * binade * (den <<< scale rank) :=
      Nat.mul_le_mul_right _ hsignificand
    rw [Nat.mul_left_comm, ← Nat.mul_assoc] at hunits
    rw [Nat.add_mul, Nat.one_mul] at hhigh
    rw [Nat.add_mul, Nat.one_mul, Nat.mul_assoc] at h
    omega

/-- The ratio lies between the points halfway from a magnitude to its neighbours, at such a point only
if the rank is even. -/
structure Between (num den rank : Nat) : Prop where
  low : (units (rank - 1) + units rank) * den ≤ 2 * (num <<< 1074)
  high : 2 * (num <<< 1074) ≤ (units rank + units (rank + 1)) * den
  strict : rank % 2 = 1 → (units (rank - 1) + units rank) * den < 2 * (num <<< 1074) ∧
    2 * (num <<< 1074) < (units rank + units (rank + 1)) * den

theorem nearest_of_between {rank : Nat} (hden : 0 < den) (h : Between num den rank) :
    nearest num den = rank := by
  refine Nat.le_antisymm (nearest_le rank hden h.high fun hodd ↦ (h.strict hodd).2) ?_
  cases rank with
  | zero => exact Nat.zero_le _
  | succ rank =>
    refine lt_nearest rank hden h.low fun heven ↦ (h.strict ?_).1
    omega

theorem units_of_significand {k n : Nat} (hlt : n < 2 * binade) (hle : 0 < k → binade ≤ n) :
    units (k * binade + n) = n <<< k := by
  have hscale : scale (k * binade + n) = k := by
    unfold scale
    simp only [binade] at *
    omega
  rw [units, hscale, Nat.add_sub_cancel_left]

theorem units_nearest {m : Nat} (hm : m < 2 ^ 53) : units (nearest m 1) = m <<< 1074 := by
  have hscale := scaleOf_le hm
  have hquotient : (m <<< 1074) / (1 <<< scaleOf m 1) = m * 2 ^ (1074 - scaleOf m 1) := by
    rw [units_eq_mul m hscale, Nat.mul_div_cancel _ (one_shiftLeft_pos _)]
  have hlt := significand_lt m 1
  have hle (h : 0 < scaleOf m 1) := le_significand h
  rw [hquotient] at hlt hle
  rw [nearest_of_scaleOf_le hscale, units_of_significand hlt hle, Nat.shiftLeft_eq,
    units_eq_mul m hscale, Nat.one_shiftLeft]

end Rank

end DocumentSchema.Json
