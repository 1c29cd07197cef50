import DocumentSchema.Json.Decimal
import DocumentSchema.Proofs.Json.Midpoints
import DocumentSchema.Proofs.Json.WholeNumber

namespace DocumentSchema.Json

theorem roundQuotient_eq (num den : Nat) :
    roundQuotient num den = num / den ∨ roundQuotient num den = num / den + 1 := by
  have hlow := le_roundQuotient num den
  have hhigh := roundQuotient_le num den
  omega

namespace Rank

variable {num den num' den' rank : Nat}

theorem Between.of_ratio (hden : 0 < den) (hden' : 0 < den') (hratio : num * den' = num' * den)
    (h : Between num den rank) : Between num' den' rank := by
  have hscaled : 2 * (num <<< 1074) * den' = 2 * (num' <<< 1074) * den := by
    rw [Nat.shiftLeft_eq, Nat.shiftLeft_eq, Nat.mul_assoc, Nat.mul_right_comm num, hratio,
      Nat.mul_right_comm num', ← Nat.mul_assoc]
  have hle (bound : Nat) : bound * den ≤ 2 * (num <<< 1074) ↔ bound * den' ≤ 2 * (num' <<< 1074) := by
    rw [← Nat.mul_le_mul_right_iff hden', hscaled, Nat.mul_right_comm bound,
      Nat.mul_le_mul_right_iff hden]
  have hge (bound : Nat) : 2 * (num <<< 1074) ≤ bound * den ↔ 2 * (num' <<< 1074) ≤ bound * den' := by
    rw [← Nat.mul_le_mul_right_iff hden', hscaled, Nat.mul_right_comm bound,
      Nat.mul_le_mul_right_iff hden]
  constructor
  case low => exact (hle _).1 h.low
  case high => exact (hge _).1 h.high
  case strict =>
    intro hodd
    rw [← Nat.not_le, ← Nat.not_le, ← hle, ← hge, Nat.not_le, Nat.not_le]
    exact h.strict hodd

theorem units_pos (h : 0 < rank) : 0 < units rank := by
  obtain ⟨k, rfl⟩ := Nat.exists_eq_add_one.2 h
  rw [units_succ]
  exact Nat.add_pos_right _ (Nat.two_pow_pos _)

theorem between_units (rank : Nat) : Between (units rank) (1 <<< 1074) rank := by
  have hvalue : 2 * (units rank <<< 1074) = (units rank + units rank) * 1 <<< 1074 := by
    simp only [Nat.shiftLeft_eq, Nat.one_mul, Nat.add_mul, Nat.two_mul]
  have hhigh : units rank < units (rank + 1) := by
    rw [units_succ]
    exact Nat.lt_add_of_pos_right (Nat.two_pow_pos _)
  have hlow (h : 0 < rank) : units (rank - 1) < units rank := by
    obtain ⟨k, rfl⟩ := Nat.exists_eq_add_one.2 h
    rw [Nat.add_sub_cancel, units_succ]
    exact Nat.lt_add_of_pos_right (Nat.two_pow_pos _)
  have hle : units (rank - 1) ≤ units rank := by
    rcases Nat.eq_zero_or_pos rank with rfl | hpositive
    · exact Nat.le_refl _
    · exact (hlow hpositive).le
  constructor
  case low =>
    rw [hvalue]
    exact Nat.mul_le_mul_right _ (Nat.add_le_add_right hle _)
  case high =>
    rw [hvalue]
    exact Nat.mul_le_mul_right _ (Nat.add_le_add_left hhigh.le _)
  case strict =>
    intro hodd
    rw [hvalue]
    exact ⟨Nat.mul_lt_mul_of_pos_right (Nat.add_lt_add_right (hlow (by omega)) _) (one_shiftLeft_pos _),
      Nat.mul_lt_mul_of_pos_right (Nat.add_lt_add_left hhigh _) (one_shiftLeft_pos _)⟩

end Rank

namespace Double

variable {d : Double} {digits n : Nat} {exponent : Int}

theorem readsBack_iff_between : d.readsBack digits exponent = true ↔
    Rank.Between (digits * 10 ^ exponent.toNat) (10 ^ (-exponent).toNat) d.rank := by
  have hvalue : (digits * Nat.pow 10 exponent.toNat) <<< 1075 =
      2 * ((digits * 10 ^ exponent.toNat) <<< 1074) := by
    rw [Nat.shiftLeft_succ]
    rfl
  simp only [readsBack, hvalue]
  split
  case isTrue heven =>
    rw [Bool.and_eq_true, decide_eq_true_eq, decide_eq_true_eq]
    exact ⟨fun h ↦ ⟨h.1, h.2, fun hodd ↦ by omega⟩, fun h ↦ ⟨h.low, h.high⟩⟩
  case isFalse hodd =>
    rw [Bool.and_eq_true, decide_eq_true_eq, decide_eq_true_eq]
    exact ⟨fun h ↦ ⟨h.1.le, h.2.le, fun _ ↦ h⟩, fun h ↦ h.strict (by omega)⟩

theorem readsBack_of_onGrid? (h : d.onGrid? exponent = some n) : d.readsBack n exponent = true := by
  simp only [onGrid?] at h
  generalize d.units * Nat.pow 10 (-exponent).toNat = num at h
  generalize Nat.pow 10 exponent.toNat <<< 1074 = den at h
  split at h
  case h_1 hbelow habove =>
    obtain rfl := Option.some.inj h
    rcases roundQuotient_eq num den with heq | heq
    · rw [heq]
      exact hbelow
    · rw [heq]
      exact habove
  case h_2 hbelow _ =>
    obtain rfl := Option.some.inj h
    exact hbelow
  case h_3 _ habove =>
    obtain rfl := Option.some.inj h
    exact habove
  case h_4 => cases h

theorem readsBack_exact (d : Double) {k : Nat} (hk : k = 1074) (hexponent : exponent = -(k : Int)) :
    d.readsBack (d.units * Nat.pow 5 k) exponent = true := by
  have hpowers : 10 ^ k = Nat.pow 5 k * 2 ^ k := Nat.mul_pow 5 2 k
  have hratio : d.units * 10 ^ (-exponent).toNat =
      d.units * Nat.pow 5 k * 10 ^ exponent.toNat * 1 <<< k := by
    rw [hexponent, Int.neg_neg, Int.toNat_natCast, Int.toNat_neg_natCast, hpowers, Nat.one_shiftLeft,
      Nat.pow_zero, Nat.mul_one, Nat.mul_assoc]
  have hunits := Rank.between_units d.rank
  rw [← hk] at hunits
  rw [readsBack_iff_between]
  exact hunits.of_ratio (Rank.one_shiftLeft_pos k) (Nat.pow_pos (by decide)) hratio

theorem readsBack_shortest (d : Double) : d.readsBack d.shortest.1 d.shortest.2 = true := by
  simp only [shortest]
  cases hgrid : ((List.range 17).map fun (n : Nat) ↦ d.decimalPoint - (n + 1)).findSome? fun e ↦
      (d.onGrid? e).map (·, e) with
  | none =>
    dsimp only [Option.getD_none]
    generalize hk : 1074 = k
    exact d.readsBack_exact hk.symm (by omega)
  | some found =>
    obtain ⟨e, -, he⟩ := List.exists_of_findSome?_eq_some hgrid
    obtain ⟨n, hn, rfl⟩ := Option.map_eq_some_iff.1 he
    exact readsBack_of_onGrid? hn

section Layout

variable {c : Char} {ds rest : List Char}

theorem exists_zeros (ds : List Char) :
    ∃ z, ds = (ds.reverse.dropWhile (· = '0')).reverse ++ List.replicate z '0' := by
  refine ⟨(ds.reverse.takeWhile (· = '0')).length, ?_⟩
  have hzeros : ds.reverse.takeWhile (· = '0') =
      List.replicate (ds.reverse.takeWhile (· = '0')).length '0' := by
    refine List.eq_replicate_of_mem fun c hc ↦ ?_
    simpa using List.all_eq_true.1 List.all_takeWhile c hc
  rw [← List.reverse_replicate, ← List.reverse_append, ← hzeros, List.takeWhile_append_dropWhile,
    List.reverse_reverse]

/-- Digits that do not begin with a zero. -/
structure IsDecimal (ds : List Char) : Prop where
  digits : ∀ c ∈ ds, c.isDigit = true
  exists_cons : ∃ c rest, ds = c :: rest ∧ c ≠ '0'

theorem isDecimal_of_zeros {n z : Nat} (hn : n ≠ 0) (h : Nat.toDigits 10 n = ds ++ List.replicate z '0') :
    IsDecimal ds := by
  refine ⟨fun d hd ↦ isDigit_of_mem_toDigits (h ▸ List.mem_append_left _ hd), ?_⟩
  obtain ⟨c, rest, hwritten, hc⟩ := exists_toDigits_eq_cons hn
  rw [hwritten] at h
  cases ds with
  | nil =>
    have hmem : c ∈ List.replicate z '0' := by
      rw [← List.nil_append (List.replicate z '0'), ← h]
      exact List.mem_cons_self
    exact absurd (List.eq_of_mem_replicate hmem) hc
  | cons first more =>
    obtain ⟨rfl, -⟩ := List.cons.inj h
    exact ⟨_, _, rfl, hc⟩

theorem exists_decimal (hd : 0 < d.rank) : ∃ ds z exponent, IsDecimal ds ∧
    d.magnitudeText = layout ds (exponent + ((ds.length + z : Nat) : Int) - 1) ∧
      Rank.Between (Nat.ofDigitChars 10 ds 0 * 10 ^ z * 10 ^ exponent.toNat) (10 ^ (-exponent).toNat)
        d.rank := by
  have hreads := readsBack_iff_between.1 d.readsBack_shortest
  have htext : d.magnitudeText = _ := if_neg (by simpa [isZero] using hd.ne')
  generalize d.shortest = found at hreads htext
  obtain ⟨n, exponent⟩ := found
  dsimp only at hreads htext
  have hn : n ≠ 0 := by
    rintro rfl
    have hlow := hreads.low
    have hunits := Rank.units_pos hd
    have hgrid : 0 < 10 ^ (-exponent).toNat := Nat.pow_pos (by decide)
    rw [Nat.zero_mul, Nat.zero_shiftLeft, Nat.mul_zero, Nat.le_zero_eq, Nat.mul_eq_zero] at hlow
    omega
  obtain ⟨z, hzeros⟩ := exists_zeros (Nat.toDigits 10 n)
  generalize ((Nat.toDigits 10 n).reverse.dropWhile (· = '0')).reverse = ds at hzeros htext
  refine ⟨ds, z, exponent, isDecimal_of_zeros hn hzeros, ?_, ?_⟩
  · rw [htext, hzeros, List.length_append, List.length_replicate]
  · have hvalue : Nat.ofDigitChars 10 ds 0 * 10 ^ z = n := by
      rw [Nat.mul_comm, ← Nat.ofDigitChars_replicate_zero, ← Nat.ofDigitChars_append, ← hzeros,
        Nat.ofDigitChars_ten_toDigits]
    rw [hvalue]
    exact hreads

/-- Digits with a point among them: a whole number, `m`, divided by a power of ten, `10 ^ k`. -/
inductive Pointed : List Char → Nat → Nat → Prop
  | mk {whole fraction : List Char} {m : Nat} (natural : whole = ['0'] ∨ IsDecimal whole)
      (digits : ∀ c ∈ fraction, c.isDigit = true) (isSome : fraction ≠ [])
      (value : Nat.ofDigitChars 10 (whole ++ fraction) 0 = m) :
      Pointed (whole ++ '.' :: fraction) m fraction.length

theorem isDigit_of_mem_zeros {k : Nat} (h : c ∈ List.replicate k '0') : c.isDigit = true := by
  rw [List.eq_of_mem_replicate h]
  rfl

theorem IsDecimal.ne_nil (hds : IsDecimal ds) : ds ≠ [] := by
  obtain ⟨c, more, rfl, -⟩ := hds.exists_cons
  exact List.cons_ne_nil _ _

theorem IsDecimal.append (hds : IsDecimal ds) (digits : ∀ d ∈ rest, d.isDigit = true) :
    IsDecimal (ds ++ rest) := by
  obtain ⟨c, more, rfl, hc⟩ := hds.exists_cons
  exact ⟨List.forall_mem_append.2 ⟨hds.digits, digits⟩, c, more ++ rest, rfl, hc⟩

theorem IsDecimal.take (hds : IsDecimal ds) (n : Nat) : IsDecimal (ds.take (n + 1)) := by
  obtain ⟨c, more, rfl, hc⟩ := hds.exists_cons
  exact ⟨fun d hd ↦ hds.digits d (List.mem_of_mem_take hd), c, more.take n, rfl, hc⟩

theorem pointed_leading (hds : IsDecimal ds) (zeros : Nat) :
    Pointed ('0' :: '.' :: (List.replicate zeros '0' ++ ds)) (Nat.ofDigitChars 10 ds 0)
      (zeros + ds.length) := by
  have hdigits : ∀ c ∈ List.replicate zeros '0' ++ ds, c.isDigit = true :=
    List.forall_mem_append.2 ⟨fun c ↦ isDigit_of_mem_zeros, hds.digits⟩
  have hvalue : Nat.ofDigitChars 10 (['0'] ++ (List.replicate zeros '0' ++ ds)) 0 =
      Nat.ofDigitChars 10 ds 0 := by
    have hzero : Nat.ofDigitChars 10 ['0'] 0 = 0 := rfl
    rw [Nat.ofDigitChars_append, Nat.ofDigitChars_append, hzero, Nat.ofDigitChars_replicate_zero,
      Nat.mul_zero]
  have hlength : (List.replicate zeros '0' ++ ds).length = zeros + ds.length := by
    rw [List.length_append, List.length_replicate]
  rw [← hlength]
  exact .mk (.inl rfl) hdigits (List.append_ne_nil_of_right_ne_nil _ hds.ne_nil) hvalue

theorem pointed_trailing (hds : IsDecimal ds) (zeros : Nat) :
    Pointed (ds ++ List.replicate zeros '0' ++ '.' :: ['0'])
      (Nat.ofDigitChars 10 ds 0 * 10 ^ (zeros + 1)) 1 := by
  have hwhole : IsDecimal (ds ++ List.replicate zeros '0') := hds.append fun c ↦ isDigit_of_mem_zeros
  have hvalue : Nat.ofDigitChars 10 (ds ++ List.replicate zeros '0' ++ ['0']) 0 =
      Nat.ofDigitChars 10 ds 0 * 10 ^ (zeros + 1) := by
    rw [List.append_assoc, ← List.replicate_succ', Nat.ofDigitChars_append,
      Nat.ofDigitChars_replicate_zero, Nat.mul_comm]
  exact .mk (.inr hwhole) (List.forall_mem_singleton.2 rfl) (List.cons_ne_nil _ _) hvalue

theorem pointed_inside (hds : IsDecimal ds) {n : Nat} (hn : n + 1 < ds.length) :
    Pointed (ds.take (n + 1) ++ '.' :: ds.drop (n + 1)) (Nat.ofDigitChars 10 ds 0) (ds.length - (n + 1)) := by
  have hdigits : ∀ c ∈ ds.drop (n + 1), c.isDigit = true :=
    fun c hc ↦ hds.digits c (List.mem_of_mem_drop hc)
  have hsome : ds.drop (n + 1) ≠ [] := by
    rw [Ne, List.drop_eq_nil_iff]
    omega
  have hvalue : Nat.ofDigitChars 10 (ds.take (n + 1) ++ ds.drop (n + 1)) 0 = Nat.ofDigitChars 10 ds 0 := by
    rw [List.take_append_drop]
  rw [← List.length_drop]
  exact .mk (.inr (hds.take n)) hdigits hsome hvalue

theorem layout_plain (hds : IsDecimal ds) (plain : isPlain exponent = true) : ∃ k t : Nat,
    Pointed (layout ds exponent) (Nat.ofDigitChars 10 ds 0 * 10 ^ t) k ∧
      (k : Int) + exponent + 1 = t + ds.length := by
  simp only [layout, if_pos plain]
  split
  case isTrue hnegative =>
    refine ⟨(-1 - exponent).toNat + ds.length, 0, ?_, by omega⟩
    rw [Nat.pow_zero, Nat.mul_one]
    exact pointed_leading hds _
  case isFalse hnatural =>
    split
    case isTrue hshort =>
      rw [List.take_of_length_le hshort]
      exact ⟨1, _, pointed_trailing hds _, by omega⟩
    case isFalse hlong =>
      have hzeros : (((exponent.toNat + 1 : Nat) : Int) - ds.length).toNat = 0 := by omega
      rw [hzeros, List.replicate_zero, List.append_nil]
      refine ⟨ds.length - (exponent.toNat + 1), 0, ?_, by omega⟩
      rw [Nat.pow_zero, Nat.mul_one]
      exact pointed_inside hds (by omega)

theorem layout_of_not_plain (h : ¬ isPlain exponent = true) : 'e' ∈ layout ds exponent := by
  simp [layout, h]

end Layout

end Double

namespace Numeral

open Double (Pointed IsDecimal)

variable {n : Numeral} {ds rest text : List Char} {m k : Nat}

theorem finish?_fraction (fraction : n.phase = .fraction) (room : n.full = false)
    (digits : ∀ c ∈ ds, c.isDigit = true)
    (bound : Nat.ofDigitChars 10 ds n.significand < 0x10000000000000000) :
    n.finish? ds = { n with
      significand := Nat.ofDigitChars 10 ds n.significand, scale := n.scale - ds.length }.number? := by
  induction ds generalizing n with
  | nil =>
    have hcomplete : n.isComplete = true := by rw [isComplete, fraction]
    rw [finish?, if_pos hcomplete, List.length_nil, Int.natCast_zero, Int.sub_zero]
    rfl
  | cons c ds ih =>
    obtain ⟨hc, hds⟩ := List.forall_mem_cons.1 digits
    rw [Nat.ofDigitChars_cons] at bound
    have hnext : 10 * n.significand + digit c < 0x10000000000000000 :=
      Nat.lt_of_le_of_lt (le_ofDigitChars ds _) bound
    have hstep : n.step c =
        .more { n with significand := 10 * n.significand + digit c, scale := n.scale - 1 } := by
      have hroom : ¬ (n.full || decide (0x10000000000000000 ≤ 10 * n.significand + digit c)) = true := by
        simpa [room] using hnext
      simp only [step, fraction, if_pos hc, fractionDigit, if_neg hroom]
    have hrest := ih (n := { n with significand := 10 * n.significand + digit c, scale := n.scale - 1 })
      fraction room hds bound
    rw [finish?, hstep, Nat.ofDigitChars_cons]
    refine hrest.trans ?_
    rw [List.length_cons, Int.natCast_succ, Int.sub_sub, Int.add_comm 1]
    rfl

theorem finish?_point (point : n.phase = .point) (room : n.full = false) (isSome : ds ≠ [])
    (digits : ∀ c ∈ ds, c.isDigit = true)
    (bound : Nat.ofDigitChars 10 ds n.significand < 0x10000000000000000) :
    n.finish? ds = { n with
      phase := .fraction, significand := Nat.ofDigitChars 10 ds n.significand
      scale := n.scale - ds.length }.number? := by
  obtain ⟨c, rest, rfl⟩ := List.exists_cons_of_ne_nil isSome
  have hc : c.isDigit = true := digits c List.mem_cons_self
  have hstep : n.step c = ({ n with phase := .fraction } : Numeral).step c := by
    simp only [step, point, if_pos hc]
  refine Eq.trans ?_ (finish?_fraction (n := { n with phase := .fraction }) rfl room digits bound)
  rw [finish?, hstep, ← finish?]

theorem ofText?_pointed (negative : Bool) (h : Pointed text m k) (bound : m < 0x10000000000000000) :
    Number.ofText? (Number.sign negative ++ text) = { start negative with
      phase := .fraction, significand := m, scale := -k }.number? := by
  obtain @⟨whole, fraction, _, natural, digits, isSome, rfl⟩ := h
  rw [Nat.ofDigitChars_append] at bound ⊢
  have hpoint : ({ start negative with
      phase := .point, significand := Nat.ofDigitChars 10 whole 0 } : Numeral).finish? fraction = _ :=
    finish?_point rfl rfl isSome digits bound
  have hscale : (0 : Int) - fraction.length = -fraction.length := Int.zero_sub _
  dsimp only [start] at hpoint
  rw [hscale] at hpoint
  refine Eq.trans ?_ hpoint
  rcases natural with rfl | hwhole
  · cases negative <;> rfl
  · obtain ⟨c, rest, rfl, hc⟩ := hwhole.exists_cons
    obtain ⟨hdigit, hrest⟩ := List.forall_mem_cons.1 hwhole.digits
    rw [ofDigitChars_cons_zero] at bound ⊢
    rw [List.cons_append, Number.ofText?_begun negative hdigit hc, finish?_whole rfl rfl hrest
      (Nat.lt_of_le_of_lt (le_ofDigitChars _ _) bound)]
    rfl

end Numeral

namespace Double

variable {d : Double} {text ds : List Char} {m k : Nat}

section Exact

theorem units_ofInt (hm : m < 2 ^ 53) : (ofInt m).units = m <<< 1074 := by
  have hlast := Rank.nearest_mono 1 hm.le
  have hfinite : Rank.nearest (2 ^ 53) 1 < Rank.count - 1 := by decide +kernel
  have hrank : (ofInt m).rank = Rank.nearest m 1 := by
    simp only [ofInt, saturating, Int.natAbs_natCast]
    omega
  rw [units, hrank, Rank.units_nearest hm]

theorem powerOfTen_eq (k : Nat) : powerOfTen k = ofInt (10 ^ k : Nat) := by
  have hnegative : decide (((10 ^ k : Nat) : Int) < 0) = false := by
    simp only [decide_eq_false_iff_not, Int.not_lt]
    exact Int.natCast_nonneg _
  rw [ofInt, hnegative, Int.natAbs_natCast]
  rfl

theorem rank_divided (hm : m < 2 ^ 53) (hk : k ≤ 15) (between : Rank.Between m (10 ^ k) d.rank) :
    (Numeral.divided (ofInt m) k).rank = d.rank := by
  have hpower : 10 ^ k < 2 ^ 53 := by
    exact Nat.lt_of_le_of_lt (Nat.pow_le_pow_right (by decide) hk) (by decide)
  have hterms : Rank.nearest (m <<< 1074) ((10 ^ k) <<< 1074) = d.rank := by
    have hpos : 0 < 10 ^ k := Nat.pow_pos (by decide)
    refine Rank.nearest_of_between (Rank.shiftLeft_pos hpos _) ?_
    refine between.of_ratio hpos (Rank.shiftLeft_pos hpos _) ?_
    rw [Nat.shiftLeft_eq, Nat.shiftLeft_eq, Nat.mul_right_comm, Nat.mul_assoc]
  have hfinite := d.finite
  rw [Numeral.divided, if_pos (by omega), dividedBy, powerOfTen_eq, units_ofInt hm, units_ofInt hpower]
  simp only [saturating, hterms]
  omega

end Exact

/-- The text has a point, no exponent, and no more than fifteen digits. -/
def IsBrief (text : List Char) : Prop := 'e' ∉ text ∧ text.countP Char.isDigit ≤ 15

theorem ofDigitChars_lt (digits : ∀ c ∈ ds, c.isDigit = true) (m : Nat) :
    Nat.ofDigitChars 10 ds m < (m + 1) * 10 ^ ds.length := by
  induction ds generalizing m with
  | nil =>
    rw [Nat.ofDigitChars_nil, List.length_nil]
    omega
  | cons c ds ih =>
    obtain ⟨hc, hds⟩ := List.forall_mem_cons.1 digits
    have hdigit : c.toNat - '0'.toNat < 10 := (digit_of_isDigit hc).1
    rw [Nat.ofDigitChars_cons, List.length_cons, Nat.pow_succ', ← Nat.mul_assoc]
    refine Nat.lt_of_lt_of_le (ih hds _) (Nat.mul_le_mul_right _ ?_)
    omega

theorem Pointed.pos (h : Pointed text m k) : 0 < k := by
  obtain ⟨-, -, isSome, -⟩ := h
  exact List.length_pos_iff.2 isSome

theorem Pointed.brief (h : Pointed text m k) (brief : text.countP Char.isDigit ≤ 15) :
    m < 2 ^ 53 ∧ k ≤ 15 := by
  obtain @⟨whole, fraction, _, natural, digits, -, rfl⟩ := h
  have hwhole : ∀ c ∈ whole, c.isDigit = true := by
    rcases natural with rfl | hwhole
    · exact List.forall_mem_singleton.2 rfl
    · exact hwhole.digits
  have hcount : (whole ++ '.' :: fraction).countP Char.isDigit = whole.length + fraction.length := by
    rw [List.countP_append, List.countP_cons_of_neg (by decide), List.countP_eq_length.2 hwhole,
      List.countP_eq_length.2 digits]
  have hvalue := ofDigitChars_lt (List.forall_mem_append.2 ⟨hwhole, digits⟩) 0
  have hbound : 10 ^ (whole ++ fraction).length ≤ 10 ^ 15 := by
    refine Nat.pow_le_pow_right (by decide) ?_
    rw [List.length_append]
    omega
  omega

theorem exists_pointed (noExponent : 'e' ∉ d.magnitudeText) :
    ∃ m k, Pointed d.magnitudeText m k ∧ Rank.Between m (10 ^ k) d.rank := by
  rcases Nat.eq_zero_or_pos d.rank with hzero | hpositive
  · have htext : d.magnitudeText = ['0'] ++ '.' :: ['0'] := if_pos (by simpa [isZero] using hzero)
    have hdigits : ∀ c ∈ ['0'], c.isDigit = true := List.forall_mem_singleton.2 rfl
    refine ⟨0, 1, htext ▸ .mk (.inl rfl) hdigits (List.cons_ne_nil _ _) rfl, ?_⟩
    rw [hzero]
    exact ⟨by decide, Nat.zero_le _, nofun⟩
  · obtain ⟨ds, z, exponent, hds, htext, hbetween⟩ := exists_decimal hpositive
    rw [htext] at noExponent ⊢
    have hplain := Classical.byContradiction fun h ↦ noExponent (layout_of_not_plain h)
    obtain ⟨k, t, hpointed, hpoint⟩ := layout_plain hds hplain
    refine ⟨_, k, hpointed, hbetween.of_ratio (Nat.pow_pos (by decide)) (Nat.pow_pos (by decide)) ?_⟩
    rw [Nat.mul_assoc, Nat.mul_assoc, Nat.mul_assoc, ← Nat.pow_add, ← Nat.pow_add, ← Nat.pow_add]
    congr 2
    omega

theorem text_eq (d : Double) : d.text = Number.sign d.negative ++ d.magnitudeText := by
  unfold text Number.sign
  split <;> rfl

theorem ofText?_text (brief : IsBrief d.text) : Number.ofText? d.text = some (.real d) := by
  obtain ⟨noExponent, few⟩ := brief
  rw [text_eq] at noExponent few ⊢
  obtain ⟨m, k, hpointed, hbetween⟩ := exists_pointed fun h ↦ noExponent (List.mem_append_right _ h)
  rw [List.countP_append] at few
  obtain ⟨hm, hk⟩ := hpointed.brief (by omega)
  have hpositive := hpointed.pos
  rw [Numeral.ofText?_pointed _ hpointed (by omega)]
  have hscaled : Numeral.scaled? (ofInt m) (-(k : Int) + (0 : Nat)) = some (Numeral.divided (ofInt m) k) := by
    rw [Numeral.scaled?, if_pos (by omega)]
    congr 2
    omega
  have hrank := rank_divided hm hk hbetween
  obtain ⟨negative, rank, finite⟩ := d
  dsimp only [Numeral.number?, Numeral.double?, Numeral.start]
  rw [if_neg Bool.false_ne_true, hscaled]
  refine congrArg (some ∘ Number.real) ?_
  simpa only [mk.injEq, true_and] using hrank

end Double

/-- The number is an integer that is kept as one, or its text is brief. -/
def Number.IsBrief (n : Number) : Prop := ∀ d, n = .real d → Double.IsBrief d.text

theorem Number.IsBrief.ofText?_text {n : Number} (h : n.IsBrief) : Number.ofText? n.text = some n := by
  cases n with
  | integer i inRange => exact Number.ofText?_decimal inRange
  | real d => exact Double.ofText?_text (h d rfl)

end DocumentSchema.Json
