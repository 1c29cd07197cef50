import DocumentSchema.Json.Double
import Mathlib.Algebra.Group.Nat.Defs
import Mathlib.Data.Nat.Log

namespace DocumentSchema.Json

theorem le_roundQuotient (num den : Nat) : num / den ≤ roundQuotient num den := by
  unfold roundQuotient
  grind

theorem roundQuotient_le (num den : Nat) : roundQuotient num den ≤ num / den + 1 := by
  unfold roundQuotient
  grind

theorem roundQuotient_mul {den : Nat} (hden : 0 < den) (q : Nat) :
    roundQuotient (q * den) den = q := by
  have hcompare : compare 0 den = .lt := Nat.compare_eq_lt.2 hden
  simp [roundQuotient, Nat.mul_div_cancel _ hden, hcompare]

theorem roundQuotient_mono {num num' : Nat} (den : Nat) (h : num ≤ num') :
    roundQuotient num den ≤ roundQuotient num' den := by
  rcases Nat.lt_or_ge (num / den) (num' / den) with hlt | hge
  · have hle := roundQuotient_le num den
    have hle' := le_roundQuotient num' den
    omega
  · have hquotient : num / den = num' / den := Nat.le_antisymm (Nat.div_le_div_right h) hge
    have hremainder : num % den ≤ num' % den := by
      have hnum := Nat.div_add_mod num den
      have hnum' := Nat.div_add_mod num' den
      rw [hquotient] at hnum
      omega
    unfold roundQuotient
    grind

namespace Rank

/-- The scale of the magnitudes between which a ratio lies. -/
def scaleOf (num den : Nat) : Nat := ((num <<< 1074) / den).log2 - 52

theorem nearest_eq (num den : Nat) : nearest num den = scaleOf num den * binade +
    roundQuotient (num <<< 1074) (den <<< scaleOf num den) := rfl

theorem units_div (num den scale : Nat) :
    (num <<< 1074) / (den <<< scale) = (num <<< 1074) / den / 2 ^ scale := by
  rw [Nat.shiftLeft_eq den, Nat.div_div_eq_div_mul]

section Monotone

variable {num num' : Nat} (den : Nat)

theorem units_mono (h : num ≤ num') : num <<< 1074 ≤ num' <<< 1074 := by
  rw [Nat.shiftLeft_eq, Nat.shiftLeft_eq]
  exact Nat.mul_le_mul_right _ h

theorem scaleOf_mono (h : num ≤ num') : scaleOf num den ≤ scaleOf num' den := by
  have hlog := Nat.log_mono_right (b := 2) (Nat.div_le_div_right (c := den) (units_mono h))
  rw [scaleOf, scaleOf, Nat.log2_eq_log_two, Nat.log2_eq_log_two]
  omega

theorem significand_lt (num den : Nat) :
    (num <<< 1074) / (den <<< scaleOf num den) < 2 * binade := by
  have hpow : (num <<< 1074) / den < 2 ^ (53 + scaleOf num den) := by
    refine Nat.lt_of_lt_of_le Nat.lt_log2_self (Nat.pow_le_pow_right Nat.two_pos ?_)
    unfold scaleOf
    omega
  rw [units_div, Nat.div_lt_iff_lt_mul (Nat.two_pow_pos _)]
  exact Nat.pow_add 2 53 _ ▸ hpow

theorem le_significand {num den : Nat} (h : 0 < scaleOf num den) :
    binade ≤ (num <<< 1074) / (den <<< scaleOf num den) := by
  have hlog : 52 + scaleOf num den = ((num <<< 1074) / den).log2 := by
    unfold scaleOf at h ⊢
    omega
  have hne : (num <<< 1074) / den ≠ 0 := by
    intro hzero
    rw [hzero, Nat.log2_zero] at hlog
    omega
  have hpow : 2 ^ (52 + scaleOf num den) ≤ (num <<< 1074) / den := hlog ▸ Nat.log2_self_le hne
  rw [units_div, Nat.le_div_iff_mul_le (Nat.two_pow_pos _)]
  exact Nat.pow_add 2 52 _ ▸ hpow

theorem le_nearest_of_scaleOf_lt (h : scaleOf num den < scaleOf num' den) :
    scaleOf num den * binade + 2 * binade ≤ nearest num' den := by
  have hsignificand := le_significand (Nat.zero_lt_of_lt h)
  have hround := le_roundQuotient (num' <<< 1074) (den <<< scaleOf num' den)
  have hscales : (scaleOf num den + 1) * binade ≤ scaleOf num' den * binade :=
    Nat.mul_le_mul_right _ h
  rw [Nat.add_mul] at hscales
  rw [nearest_eq]
  omega

theorem nearest_mono (h : num ≤ num') : nearest num den ≤ nearest num' den := by
  rcases Nat.lt_or_ge (scaleOf num den) (scaleOf num' den) with hlt | hge
  · have hbeyond := le_nearest_of_scaleOf_lt den hlt
    have hsignificand := significand_lt num den
    have hround := roundQuotient_le (num <<< 1074) (den <<< scaleOf num den)
    rw [nearest_eq num]
    omega
  · have hscale := Nat.le_antisymm (scaleOf_mono den h) hge
    rw [nearest_eq, nearest_eq, hscale]
    exact Nat.add_le_add_left (roundQuotient_mono _ (units_mono h)) _

end Monotone

section Exact

variable {n n' : Nat}

theorem log_shiftLeft_lt (h : n < 2 ^ 53) (k : Nat) : Nat.log 2 (n <<< k) < 53 + k := by
  refine Nat.log_lt_of_lt_pow' (by omega) ?_
  rw [Nat.shiftLeft_eq, Nat.pow_add]
  exact Nat.mul_lt_mul_of_pos_right h (Nat.two_pow_pos k)

theorem scaleOf_le (h : n < 2 ^ 53) : scaleOf n 1 ≤ 1074 := by
  have hlog := log_shiftLeft_lt h 1074
  rw [scaleOf, Nat.div_one, Nat.log2_eq_log_two]
  omega

theorem units_eq_mul (n : Nat) {scale : Nat} (h : scale ≤ 1074) :
    n <<< 1074 = n * 2 ^ (1074 - scale) * (1 <<< scale) := by
  rw [Nat.shiftLeft_eq, Nat.one_shiftLeft, Nat.mul_assoc, ← Nat.pow_add, Nat.sub_add_cancel h]

theorem one_shiftLeft_pos (scale : Nat) : 0 < 1 <<< scale := by
  rw [Nat.one_shiftLeft]
  exact Nat.two_pow_pos scale

theorem nearest_of_scaleOf_le (h : scaleOf n 1 ≤ 1074) :
    nearest n 1 = scaleOf n 1 * binade + n * 2 ^ (1074 - scaleOf n 1) := by
  rw [nearest_eq, units_eq_mul n h, roundQuotient_mul (one_shiftLeft_pos _)]

theorem nearest_lt_nearest (h : n < n') (hn' : n' ≤ 2 ^ 53) : nearest n 1 < nearest n' 1 := by
  have hscale : scaleOf n 1 ≤ 1074 := scaleOf_le (by omega)
  rcases Nat.lt_or_ge (scaleOf n 1) (scaleOf n' 1) with hlt | hge
  · have hbeyond := le_nearest_of_scaleOf_lt 1 hlt
    have hsignificand := significand_lt n 1
    rw [units_eq_mul n hscale, Nat.mul_div_cancel _ (one_shiftLeft_pos _)] at hsignificand
    rw [nearest_of_scaleOf_le hscale]
    omega
  · have hsame := Nat.le_antisymm (scaleOf_mono 1 h.le) hge
    have hunits : n * 2 ^ (1074 - scaleOf n 1) < n' * 2 ^ (1074 - scaleOf n 1) :=
      Nat.mul_lt_mul_of_pos_right h (Nat.two_pow_pos _)
    rw [nearest_of_scaleOf_le hscale, nearest_of_scaleOf_le (hsame ▸ hscale), ← hsame]
    exact Nat.add_lt_add_left hunits _

end Exact

end Rank

namespace Double

variable {m n : Int}

theorem key_ofInt (n : Int) : (ofInt n).key =
    if n < 0 then -((ofInt n).rank : Int) else (ofInt n).rank := by
  simp [key, ofInt, saturating]

theorem rank_ofInt_mono (h : m.natAbs ≤ n.natAbs) : (ofInt m).rank ≤ (ofInt n).rank := by
  have hnearest := Rank.nearest_mono 1 h
  simp only [ofInt, saturating]
  omega

theorem rank_ofInt_lt (h : m.natAbs < n.natAbs) (hn : n.natAbs ≤ 2 ^ 53) :
    (ofInt m).rank < (ofInt n).rank := by
  have hnearest := Rank.nearest_lt_nearest h hn
  have hlast := Rank.nearest_mono 1 hn
  have hfinite : Rank.nearest (2 ^ 53) 1 < Rank.count - 1 := by decide +kernel
  simp only [ofInt, saturating]
  omega

theorem key_ofInt_mono (h : m ≤ n) : (ofInt m).key ≤ (ofInt n).key := by
  rw [key_ofInt, key_ofInt]
  split <;> split
  · have hrank : (ofInt n).rank ≤ (ofInt m).rank := rank_ofInt_mono (by omega)
    omega
  · omega
  · omega
  · have hrank : (ofInt m).rank ≤ (ofInt n).rank := rank_ofInt_mono (by omega)
    omega

theorem key_ofInt_lt (h : m < n) (hm : m.natAbs ≤ 2 ^ 53) (hn : n.natAbs ≤ 2 ^ 53) :
    (ofInt m).key < (ofInt n).key := by
  rw [key_ofInt, key_ofInt]
  split <;> split
  · have hrank : (ofInt n).rank < (ofInt m).rank := rank_ofInt_lt (by omega) hm
    omega
  · have hrank : (ofInt 0).rank < (ofInt m).rank := rank_ofInt_lt (by omega) hm
    omega
  · omega
  · have hrank : (ofInt m).rank < (ofInt n).rank := rank_ofInt_lt (by omega) hn
    omega

end Double

end DocumentSchema.Json
