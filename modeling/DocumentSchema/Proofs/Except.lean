import Mathlib.Data.List.Forall2

namespace DocumentSchema.Except

variable {ε ε' α β : Type} {x : Except ε α} {f : α → Except ε β} {a : α} {b : β} {e : ε}

theorem bind_eq_ok_iff : x >>= f = .ok b ↔ ∃ a, x = .ok a ∧ f a = .ok b := by
  cases x <;> simp [bind, Except.bind]

theorem bind_eq_error_iff :
    x >>= f = .error e ↔ x = .error e ∨ ∃ a, x = .ok a ∧ f a = .error e := by
  cases x <;> simp [bind, Except.bind]

theorem mapError_eq_ok_iff {g : ε → ε'} : x.mapError g = .ok a ↔ x = .ok a := by
  cases x with
  | ok b => exact ⟨fun h ↦ congrArg _ (Except.ok.inj h), fun h ↦ congrArg _ (Except.ok.inj h)⟩
  | error e => constructor <;> intro h <;> cases h

theorem mapError_eq_error_iff {g : ε → ε'} {e' : ε'} :
    x.mapError g = .error e' ↔ ∃ e, x = .error e ∧ g e = e' := by
  cases x with
  | ok b =>
    constructor
    · intro h
      cases h
    · rintro ⟨e, h, -⟩
      cases h
  | error e =>
    constructor
    · intro h
      exact ⟨e, rfl, Except.error.inj h⟩
    · rintro ⟨_, h, rfl⟩
      cases h
      rfl

theorem map_eq_ok_iff {g : α → β} : x.map g = .ok b ↔ ∃ a, x = .ok a ∧ g a = b := by
  cases x <;> simp [Except.map]

theorem mapM_eq_ok_iff {l : List α} {l' : List β} :
    l.mapM f = .ok l' ↔ List.Forall₂ (fun a b ↦ f a = .ok b) l l' := by
  induction l generalizing l' with
  | nil => simp [pure, Except.pure, eq_comm]
  | cons a rest ih =>
    simp only [List.mapM_cons, bind_eq_ok_iff, ih, List.forall₂_cons_left_iff]
    constructor
    · rintro ⟨b, hb, rest', hrest, h⟩
      exact ⟨b, rest', hb, hrest, (Except.ok.inj h).symm⟩
    · rintro ⟨b, rest', hb, hrest, rfl⟩
      exact ⟨b, hb, rest', hrest, rfl⟩

theorem foldlM_preserves {step : α → β → Except ε α} {motive : α → Prop} {l : List β} {start last : α}
    (hstep : ∀ before b after, b ∈ l → motive before → step before b = .ok after → motive after)
    (hstart : motive start) (h : l.foldlM step start = .ok last) : motive last := by
  induction l generalizing start with
  | nil =>
    obtain rfl := Except.ok.inj h
    exact hstart
  | cons b rest ih =>
    rw [List.foldlM_cons] at h
    obtain ⟨next, hnext, h⟩ := bind_eq_ok_iff.1 h
    refine ih (fun before b' after hb' ↦ ?_) ?_ h
    · exact hstep before b' after (List.mem_cons_of_mem _ hb')
    · exact hstep start b next List.mem_cons_self hstart hnext

section Prefix

variable {step : α → β → Except ε α} {motive : List β → α → Prop} {l : List β} {start last : α}

theorem foldlM_eq_ok_of_prefix (hstart : motive [] start)
    (hstep : ∀ done b state next, motive done state → step state b = .ok next →
      motive (done ++ [b]) next)
    (h : l.foldlM step start = .ok last) : motive l last := by
  suffices ∀ done, motive done start → motive (done ++ l) last from this [] hstart
  clear hstart
  induction l generalizing start with
  | nil =>
    intro done hdone
    obtain rfl := Except.ok.inj h
    rwa [List.append_nil]
  | cons b rest ih =>
    intro done hdone
    rw [List.foldlM_cons] at h
    obtain ⟨next, hnext, h⟩ := bind_eq_ok_iff.1 h
    have hrest := ih h (done ++ [b]) (hstep done b start next hdone hnext)
    rwa [List.append_assoc] at hrest

theorem foldlM_eq_error_of_prefix (hstart : motive [] start)
    (hstep : ∀ done b state next, motive done state → step state b = .ok next →
      motive (done ++ [b]) next)
    (h : l.foldlM step start = .error e) : ∃ before b after state,
      l = before ++ b :: after ∧ motive before state ∧ step state b = .error e := by
  suffices ∀ done, motive done start → ∃ before b after state,
      done ++ l = before ++ b :: after ∧ motive before state ∧ step state b = .error e from
    this [] hstart
  clear hstart
  induction l generalizing start with
  | nil => cases h
  | cons b rest ih =>
    intro done hdone
    rw [List.foldlM_cons] at h
    rcases bind_eq_error_iff.1 h with hfails | ⟨next, hnext, h⟩
    · exact ⟨done, b, rest, start, rfl, hdone, hfails⟩
    · have hrest := ih h (done ++ [b]) (hstep done b start next hdone hnext)
      rwa [List.append_assoc] at hrest

end Prefix

/-- Two computations that fail for the same reason, or come to related results. -/
inductive Alike (related : α → β → Prop) : Except ε α → Except ε β → Prop
  | ok {a : α} {b : β} (h : related a b) : Alike related (.ok a) (.ok b)
  | error (e : ε) : Alike related (.error e) (.error e)

theorem Alike.bind {γ δ : Type} {related : α → β → Prop} {related' : γ → δ → Prop}
    {y : Except ε β} {f : α → Except ε γ} {g : β → Except ε δ} (h : Alike related x y)
    (next : ∀ a b, related a b → Alike related' (f a) (g b)) : Alike related' (x >>= f) (y >>= g) := by
  cases h with
  | ok h => exact next _ _ h
  | error e => exact .error e

theorem Alike.exists_ok {related : α → β → Prop} {y : Except ε β} (h : Alike related x y)
    (hx : x = .ok a) : ∃ b, y = .ok b ∧ related a b := by
  cases h with
  | ok h =>
    obtain rfl := Except.ok.inj hx
    exact ⟨_, rfl, h⟩
  | error e => cases hx

theorem Alike.refl (x : Except ε α) : Alike Eq x x := by
  cases x with
  | ok a => exact .ok rfl
  | error e => exact .error e

end DocumentSchema.Except
