import DocumentSchema.Json.Numeral
import Mathlib.Data.List.Induction

namespace DocumentSchema.Json

/-- The whole numbers that are kept exactly. -/
abbrev InRange (n : Int) : Prop := -0x8000000000000000 ≤ n ∧ n < 0x10000000000000000

/-- The decimal literal of a whole number. -/
def decimal (n : Int) : List Char :=
  if n < 0 then '-' :: Nat.toDigits 10 n.natAbs else Nat.toDigits 10 n.natAbs

section Digits

variable {m : Nat} {c : Char} {ds : List Char}

theorem isDigit_of_mem_toDigits (h : c ∈ Nat.toDigits 10 m) : c.isDigit = true :=
  Nat.isDigit_of_mem_toDigits (by decide) (by decide) h

theorem ofDigitChars_cons_zero (c : Char) (ds : List Char) :
    Nat.ofDigitChars 10 (c :: ds) 0 = Nat.ofDigitChars 10 ds (Numeral.digit c) := by
  rw [Nat.ofDigitChars_cons, Nat.mul_zero, Nat.zero_add]
  rfl

theorem le_ofDigitChars (ds : List Char) (m : Nat) : m ≤ Nat.ofDigitChars 10 ds m := by
  induction ds generalizing m with
  | nil => exact Nat.le_refl m
  | cons c ds ih =>
    rw [Nat.ofDigitChars_cons]
    have hrest := ih (10 * m + (c.toNat - '0'.toNat))
    omega

theorem exists_toDigits_eq_cons (h : m ≠ 0) : ∃ c rest, Nat.toDigits 10 m = c :: rest ∧ c ≠ '0' := by
  induction m using Nat.strongRecOn with
  | ind m ih =>
    rcases Nat.lt_or_ge m 10 with hlt | hge
    · have hdigit : ∀ d < 10, d ≠ 0 → d.digitChar ≠ '0' := by decide
      exact ⟨m.digitChar, [], Nat.toDigits_of_lt_base hlt, hdigit m hlt h⟩
    · obtain ⟨c, rest, hdigits, hc⟩ := ih (m / 10) (by omega) (by omega)
      refine ⟨c, rest ++ [(m % 10).digitChar], ?_, hc⟩
      rw [Nat.toDigits_of_base_le (by decide) hge, hdigits, List.cons_append]

theorem digit_of_isDigit (h : c.isDigit = true) :
    Numeral.digit c < 10 ∧ (Numeral.digit c).digitChar = c := by
  obtain ⟨low, high⟩ : 48 ≤ c.toNat ∧ c.toNat ≤ 57 := by
    simpa [Char.isDigit, UInt32.le_iff_toNat_le] using h
  have hdigit : Numeral.digit c = c.toNat - 48 := rfl
  have hlt : Numeral.digit c < 10 := by omega
  refine ⟨hlt, Char.toNat_inj.1 ?_⟩
  rw [Nat.toNat_digitChar_of_lt_ten hlt]
  omega

theorem toDigits_ofDigitChars (digits : ∀ d ∈ c :: ds, d.isDigit = true) (hc : c ≠ '0') :
    Nat.toDigits 10 (Nat.ofDigitChars 10 (c :: ds) 0) = c :: ds := by
  induction ds using List.reverseRecOn with
  | nil =>
    obtain ⟨hlt, hchar⟩ := digit_of_isDigit (digits c List.mem_cons_self)
    rw [ofDigitChars_cons_zero, Nat.ofDigitChars_nil, Nat.toDigits_of_lt_base hlt, hchar]
  | append_singleton ds d ih =>
    rw [← List.cons_append, List.forall_mem_append, List.forall_mem_singleton] at digits
    have hds := ih digits.1
    obtain ⟨hlt, hchar⟩ := digit_of_isDigit digits.2
    have hvalue : Nat.ofDigitChars 10 (c :: (ds ++ [d])) 0 =
        10 * Nat.ofDigitChars 10 (c :: ds) 0 + Numeral.digit d := by
      rw [← List.cons_append, Nat.ofDigitChars_append, Nat.ofDigitChars_cons, Nat.ofDigitChars_nil]
      rfl
    rw [hvalue]
    generalize Nat.ofDigitChars 10 (c :: ds) 0 = m at hds
    have hm : m ≠ 0 := by
      rintro rfl
      cases hds
      exact hc rfl
    rw [Nat.toDigits_of_base_le (by decide) (by omega), Nat.mul_add_div (by decide),
      Nat.div_eq_of_lt hlt, Nat.mul_add_mod, Nat.mod_eq_of_lt hlt, Nat.add_zero, hds, hchar,
      List.cons_append]

end Digits

namespace Numeral

variable {n n' : Numeral} {c : Char} {ds rest : List Char} {m : Number} {i : Int} {h : InRange i}

theorem step_digit (whole : n.phase = .whole) (isDigit : c.isDigit = true) :
    n.step c = .more (n.wholeDigit (digit c)) := by
  simp only [step, whole, isDigit, if_true]

theorem finish?_whole (whole : n.phase = .whole) (room : n.full = false)
    (digits : ∀ c ∈ ds, c.isDigit = true)
    (bound : Nat.ofDigitChars 10 ds n.significand < 0x10000000000000000) :
    n.finish? (ds ++ rest) =
      { n with significand := Nat.ofDigitChars 10 ds n.significand }.finish? rest := by
  induction ds generalizing n with
  | nil => rfl
  | cons c ds ih =>
    obtain ⟨hc, hds⟩ := List.forall_mem_cons.1 digits
    rw [Nat.ofDigitChars_cons] at bound
    have hnext : 10 * n.significand + digit c < 0x10000000000000000 :=
      Nat.lt_of_le_of_lt (le_ofDigitChars ds _) bound
    have hstep : n.wholeDigit (digit c) = { n with significand := 10 * n.significand + digit c } := by
      have hroom : ¬ (n.full || decide (0x10000000000000000 ≤ 10 * n.significand + digit c)) = true := by
        simpa [room] using hnext
      rw [wholeDigit, if_neg hroom]
    rw [List.cons_append, finish?, step_digit whole hc, hstep]
    exact ih whole room hds bound

theorem finish?_digits (whole : n.phase = .whole) (room : n.full = false)
    (digits : ∀ c ∈ ds, c.isDigit = true)
    (bound : Nat.ofDigitChars 10 ds n.significand < 0x10000000000000000) :
    n.finish? ds = { n with significand := Nat.ofDigitChars 10 ds n.significand }.number? := by
  have hcomplete : n.isComplete = true := by rw [isComplete, whole]
  rw [← List.append_nil ds, finish?_whole whole room digits bound, List.append_nil]
  exact if_pos hcomplete

theorem number?_of_finish?_nil (read : n.finish? [] = some m) : n.number? = some m := by
  rw [finish?] at read
  split_ifs at read
  exact read

/-- The text has come past its whole part. -/
def IsPastWhole (n : Numeral) : Prop := n.phase ≠ .sign ∧ n.phase ≠ .zero ∧ n.phase ≠ .whole

/-- The text has a point or an exponent, or too many digits, or is negative zero. -/
def IsBinary (n : Numeral) : Prop :=
  n.IsPastWhole ∨ n.full = true ∨ n.phase = .zero ∧ n.negative = true

theorem toInt?_of_binary (binary : n.IsBinary) (read : n.number? = some m) : m.toInt? = none := by
  have hreal : n.number? = n.double?.map .real := by
    unfold number?
    split <;> simp_all [IsBinary, IsPastWhole]
  obtain ⟨d, -, rfl⟩ := Option.map_eq_some_iff.1 (hreal ▸ read)
  rfl

section PastWhole

theorem fractionDigit_phase (n : Numeral) (d : Nat) : (n.fractionDigit d).phase = n.phase := by
  unfold fractionDigit
  dsimp only
  split <;> rfl

theorem exponentDigit_phase {d : Nat} (more : n.exponentDigit d = .more n') : n'.phase = n.phase := by
  unfold exponentDigit at more
  split at more
  · cases more
    rfl
  · split_ifs at more <;> cases more <;> rfl

theorem afterWhole_past (more : n.afterWhole c = .more n') : n'.IsPastWhole := by
  unfold afterWhole at more
  split_ifs at more <;> cases more <;> exact ⟨nofun, nofun, nofun⟩

theorem step_past (past : n.IsPastWhole) (more : n.step c = .more n') : n'.IsPastWhole := by
  obtain ⟨hsign, hzero, hwhole⟩ := past
  unfold step at more
  split at more
  case h_1 phase => exact absurd phase hsign
  case h_2 phase => exact absurd phase hzero
  case h_3 phase => exact absurd phase hwhole
  case h_4 phase =>
    split_ifs at more
    cases more
    rw [IsPastWhole, fractionDigit_phase]
    exact ⟨nofun, nofun, nofun⟩
  case h_5 phase =>
    split_ifs at more
    · cases more
      rw [IsPastWhole, fractionDigit_phase, phase]
      exact ⟨nofun, nofun, nofun⟩
    · cases more
      exact ⟨nofun, nofun, nofun⟩
  case h_6 phase =>
    split_ifs at more
    · cases more
      exact ⟨nofun, nofun, nofun⟩
    · cases more
      exact ⟨nofun, nofun, nofun⟩
    · rw [IsPastWhole, exponentDigit_phase more]
      exact ⟨nofun, nofun, nofun⟩
  case h_7 phase =>
    split_ifs at more
    rw [IsPastWhole, exponentDigit_phase more]
    exact ⟨nofun, nofun, nofun⟩
  case h_8 phase =>
    split_ifs at more
    rw [IsPastWhole, exponentDigit_phase more, phase]
    exact ⟨nofun, nofun, nofun⟩

theorem toInt?_of_past (past : n.IsPastWhole) (read : n.finish? ds = some m) : m.toInt? = none := by
  induction ds generalizing n with
  | nil => exact toInt?_of_binary (.inl past) (number?_of_finish?_nil read)
  | cons c ds ih =>
    rw [finish?] at read
    split at read
    case h_1 more => exact ih (step_past past more) read
    case h_2 => cases read

theorem toInt?_of_afterWhole (hstep : n.step c = n.afterWhole c)
    (read : n.finish? (c :: ds) = some m) : m.toInt? = none := by
  rw [finish?, hstep] at read
  split at read
  case h_1 more => exact toInt?_of_past (afterWhole_past more) read
  case h_2 => cases read

end PastWhole

theorem wholeDigit_phase (n : Numeral) (d : Nat) : (n.wholeDigit d).phase = n.phase := by
  unfold wholeDigit
  dsimp only
  split <;> rfl

theorem wholeDigit_of_room {d : Nat} (room : (n.wholeDigit d).full = false) :
    n.full = false ∧ n.wholeDigit d = { n with significand := 10 * n.significand + d } := by
  unfold wholeDigit at room ⊢
  dsimp only at room ⊢
  split_ifs at room ⊢ with hfull
  rw [Bool.or_eq_true, not_or, Bool.not_eq_true] at hfull
  exact ⟨hfull.1, rfl⟩

theorem finish?_eq_integer (whole : n.phase = .whole) (read : n.finish? ds = some (.integer i h)) :
    (∀ c ∈ ds, c.isDigit = true) ∧ n.full = false ∧
      { n with significand := Nat.ofDigitChars 10 ds n.significand }.number? =
        some (.integer i h) := by
  induction ds generalizing n with
  | nil =>
    have hread := number?_of_finish?_nil read
    refine ⟨by simp, Bool.of_not_eq_true fun full ↦ ?_, hread⟩
    cases toInt?_of_binary (.inr (.inl full)) hread
  | cons c ds ih =>
    by_cases hc : c.isDigit = true
    · rw [finish?, step_digit whole hc] at read
      obtain ⟨hds, room, hread⟩ := ih ((wholeDigit_phase n _).trans whole) read
      obtain ⟨hroom, hnext⟩ := wholeDigit_of_room room
      rw [hnext] at hread
      exact ⟨List.forall_mem_cons.2 ⟨hc, hds⟩, hroom, hread⟩
    · have hstep : n.step c = n.afterWhole c := by simp only [step, whole, if_neg hc]
      cases toInt?_of_afterWhole hstep read

theorem finish?_zero (zero : n.phase = .zero) (read : n.finish? ds = some (.integer i h)) :
    ds = [] := by
  cases ds with
  | nil => rfl
  | cons c ds =>
    by_cases hc : c.isDigit = true
    · simp only [finish?, step, zero, if_pos hc] at read
      cases read
    · have hstep : n.step c = n.afterWhole c := by simp only [step, zero, if_neg hc]
      cases toInt?_of_afterWhole hstep read

/-- The value of the digits and the sign before them. -/
def wholeValue (n : Numeral) : Int := if n.negative then -n.significand else n.significand

theorem number?_eq_integer_iff (whole : n.phase = .whole) (room : n.full = false) (h : InRange i) :
    n.number? = some (.integer i h) ↔ n.wholeValue = i := by
  unfold number? wholeValue
  rw [whole, room]
  cases n.negative with
  | true =>
    by_cases hmagnitude : n.significand ≤ 0x8000000000000000
    · simp [hmagnitude]
    · simp only [dif_neg hmagnitude, Option.map_eq_some_iff, reduceCtorEq, and_false, exists_false,
        if_true, false_iff]
      omega
  | false =>
    by_cases hmagnitude : n.significand < 0x10000000000000000
    · simp [Number.ofNat?, hmagnitude]
    · simp only [Number.ofNat?, dif_neg hmagnitude, Option.none_or, Option.map_eq_some_iff,
        reduceCtorEq, and_false, exists_false, Bool.false_eq_true, if_false, false_iff]
      omega

end Numeral

namespace Number

open Numeral

variable {text ds : List Char} {c : Char} {i : Int} {h : InRange i}

/-- The text before the digits. -/
def sign (negative : Bool) : List Char := if negative then ['-'] else []

/-- The state after the first digit of a whole part that is not zero. -/
def begun (negative : Bool) (c : Char) : Numeral :=
  { start negative with phase := .whole, significand := digit c }

theorem start_step (hdigit : c.isDigit = true) (hc : c ≠ '0') :
    (start true).step c = .more (begun true c) := by
  simp only [step, start, if_neg hc, hdigit, if_true, begun]

theorem start?_digit (hdigit : c.isDigit = true) (hc : c ≠ '0') :
    start? c = some (begun false c) := by
  have hminus : c ≠ '-' := by
    rintro rfl
    cases hdigit
  rw [start?, if_neg hminus, if_neg hc, if_pos hdigit]
  rfl

theorem ofText?_begun (negative : Bool) (hdigit : c.isDigit = true) (hc : c ≠ '0') :
    ofText? (sign negative ++ c :: ds) = (begun negative c).finish? ds := by
  cases negative with
  | true => rw [sign, if_pos rfl, List.singleton_append, ofText?, start?, if_pos rfl,
      Option.bind_some, finish?, start_step hdigit hc]
  | false => rw [sign, if_neg Bool.false_ne_true, List.nil_append, ofText?, start?_digit hdigit hc,
      Option.bind_some]

theorem decimal_eq (n : Int) : decimal n = sign (n < 0) ++ Nat.toDigits 10 n.natAbs := by
  unfold decimal sign
  by_cases hnegative : n < 0 <;> simp [hnegative]

theorem ofText?_decimal (h : InRange i) : ofText? (decimal i) = some (.integer i h) := by
  by_cases hzero : i = 0
  · subst hzero
    rfl
  obtain ⟨c, ds, hdigits, hc⟩ := exists_toDigits_eq_cons (Int.natAbs_ne_zero.2 hzero)
  have hall : ∀ d ∈ c :: ds, d.isDigit = true := fun d hd ↦ isDigit_of_mem_toDigits (hdigits ▸ hd)
  obtain ⟨hdigit, hds⟩ := List.forall_mem_cons.1 hall
  have hvalue : Nat.ofDigitChars 10 ds (digit c) = i.natAbs := by
    rw [← ofDigitChars_cons_zero, ← hdigits, Nat.ofDigitChars_ten_toDigits]
  have hbound : Nat.ofDigitChars 10 ds (digit c) < 0x10000000000000000 := by omega
  rw [decimal_eq, hdigits, ofText?_begun _ hdigit hc, finish?_digits rfl rfl hds hbound,
    number?_eq_integer_iff rfl rfl, wholeValue]
  dsimp only [begun, start]
  rw [hvalue]
  by_cases hnegative : i < 0 <;> simp only [hnegative, decide_true, decide_false, if_true,
    Bool.false_eq_true, if_false] <;> omega

theorem eq_decimal_of_begun (negative : Bool) (hdigit : c.isDigit = true) (hc : c ≠ '0')
    (read : (begun negative c).finish? ds = some (.integer i h)) :
    sign negative ++ c :: ds = decimal i := by
  obtain ⟨hds, -, hnumber⟩ := finish?_eq_integer rfl read
  have hvalue := (number?_eq_integer_iff rfl rfl h).1 hnumber
  have hdigits := toDigits_ofDigitChars (List.forall_mem_cons.2 ⟨hdigit, hds⟩) hc
  dsimp only [wholeValue, begun, start] at hvalue
  rw [← ofDigitChars_cons_zero] at hvalue
  generalize Nat.ofDigitChars 10 (c :: ds) 0 = m at hdigits hvalue
  have hpositive : m ≠ 0 := by
    rintro rfl
    cases hdigits
    exact hc rfl
  have hnegative : decide (i < 0) = negative := by
    cases negative <;> simp at hvalue <;> simp <;> omega
  have habs : i.natAbs = m := by
    cases negative <;> simp at hvalue <;> omega
  rw [decimal_eq, hnegative, habs, hdigits]

theorem ofText?_minus_zero (ds : List Char) : ofText? ('-' :: '0' :: ds) ≠ some (.integer i h) := by
  intro read
  have hzero : ({ start true with phase := .zero } : Numeral).finish? ds = some (.integer i h) := read
  obtain rfl := finish?_zero rfl hzero
  cases toInt?_of_binary (.inr (.inr ⟨rfl, rfl⟩)) (number?_of_finish?_nil hzero)

theorem ofText?_eq_integer_iff (h : InRange i) :
    ofText? text = some (.integer i h) ↔ text = decimal i := by
  refine ⟨fun read ↦ ?_, fun htext ↦ htext ▸ ofText?_decimal h⟩
  obtain ⟨c, ds, rfl⟩ := List.exists_cons_of_ne_nil (l := text) (by rintro rfl; cases read)
  by_cases hminus : c = '-'
  · subst hminus
    obtain ⟨c, ds, rfl⟩ := List.exists_cons_of_ne_nil (l := ds) (by rintro rfl; cases read)
    by_cases hc : c = '0'
    · subst hc
      exact absurd read (ofText?_minus_zero ds)
    by_cases hdigit : c.isDigit = true
    · exact eq_decimal_of_begun true hdigit hc ((ofText?_begun true hdigit hc).symm.trans read)
    · have hstep : (start true).step c = .invalid := by
        simp only [step, start, if_neg hc, if_neg hdigit]
      rw [ofText?, start?, if_pos rfl, Option.bind_some, finish?, hstep] at read
      cases read
  by_cases hc : c = '0'
  · subst hc
    have hzero : ({ start false with phase := .zero } : Numeral).finish? ds = some (.integer i h) := read
    obtain rfl := finish?_zero rfl hzero
    cases hzero
    rfl
  by_cases hdigit : c.isDigit = true
  · exact eq_decimal_of_begun false hdigit hc ((ofText?_begun false hdigit hc).symm.trans read)
  · rw [ofText?, start?, if_neg hminus, if_neg hc, if_neg hdigit] at read
    cases read

end Number

end DocumentSchema.Json
