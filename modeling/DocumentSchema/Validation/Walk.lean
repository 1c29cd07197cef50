import DocumentSchema.Validation.Violation

namespace DocumentSchema.Validation

/-- Where a walk is and what was found before. -/
structure Trail where
  path : Path
  findings : List Finding

def Trail.start : Trail := ⟨[], []⟩

abbrev Walk (α : Type) := Trail → Option α × Trail

/-- Whether the walks of a sequence go on after one of them found something. -/
inductive Mode where
  | failFast
  | collect
  deriving DecidableEq

namespace Walk

variable {α β : Type}

def accept (a : α) : Walk α := fun t ↦ (some a, t)

def reject (v : Violation) : Walk α := fun t ↦ (none, ⟨t.path, t.findings ++ [⟨t.path, v⟩]⟩)

def map (f : α → β) (w : Walk α) : Walk β := fun t ↦ ((w t).1.map f, (w t).2)

def within (s : Segment) (w : Walk α) : Walk α := fun t ↦
  let (result, after) := w ⟨t.path ++ [s], t.findings⟩
  (result, ⟨after.path.dropLast, after.findings⟩)

def inOrder (mode : Mode) : List (Walk α) → Walk (List α)
  | [] => accept []
  | w :: rest => fun t ↦
    match w t with
    | (some a, t) => map (a :: ·) (inOrder mode rest) t
    | (none, t) =>
      match mode with
      | .failFast => (none, t)
      | .collect => (none, (inOrder mode rest t).2)

/-- A walk keeps the path and what was found before. What it adds lies below the path, there is
something to add exactly if there is no value to give, and failing fast it is one finding at most. -/
def Disciplined (mode : Mode) (w : Walk α) : Prop :=
  ∀ t, ∃ found, (w t).2 = ⟨t.path, t.findings ++ found⟩ ∧ (∀ f ∈ found, t.path <+: f.path) ∧
    ((w t).1 = none ↔ found ≠ []) ∧ (mode = .failFast → found.length ≤ 1)

variable {mode : Mode}

theorem accept_disciplined (a : α) : Disciplined mode (accept a) :=
  fun t ↦ ⟨[], by simp [accept]⟩

theorem reject_disciplined (v : Violation) : Disciplined mode (reject v : Walk α) :=
  fun t ↦ ⟨[⟨t.path, v⟩], by simp [reject]⟩

theorem Disciplined.map {w : Walk α} (h : Disciplined mode w) (f : α → β) :
    Disciplined mode (w.map f) := by
  intro t
  obtain ⟨found, after, below, none_iff, short⟩ := h t
  exact ⟨found, after, below, by simp [Walk.map, none_iff], short⟩

theorem Disciplined.within {w : Walk α} (h : Disciplined mode w) (s : Segment) :
    Disciplined mode (w.within s) := by
  intro t
  obtain ⟨found, after, below, none_iff, short⟩ := h ⟨t.path ++ [s], t.findings⟩
  refine ⟨found, by simp [Walk.within, after], fun f hf ↦ ?_, by simpa [Walk.within] using none_iff,
    short⟩
  exact (List.prefix_append _ _).trans (below f hf)

theorem inOrder_disciplined {ws : List (Walk α)} (h : ∀ w ∈ ws, Disciplined mode w) :
    Disciplined mode (inOrder mode ws) := by
  induction ws with
  | nil => exact accept_disciplined []
  | cons w rest ih =>
    have ihr := ih fun w hw ↦ h w (List.mem_cons_of_mem _ hw)
    intro t
    obtain ⟨found, after, below, none_iff, short⟩ := h w List.mem_cons_self t
    cases result : w t with
    | mk value next =>
      simp only [result] at after none_iff
      subst after
      obtain ⟨more, after', below', none_iff', short'⟩ := ihr ⟨t.path, t.findings ++ found⟩
      cases value with
      | some a =>
        have : found = [] := by simpa using none_iff
        subst this
        exact ⟨more, by simpa [inOrder, result, Walk.map] using after', below',
          by simpa [inOrder, result, Walk.map] using none_iff', short'⟩
      | none =>
        have : found ≠ [] := none_iff.1 rfl
        cases mode with
        | failFast => exact ⟨found, by simp [inOrder, result], below, by simp [inOrder, result, this],
            short⟩
        | collect =>
          refine ⟨found ++ more, by simp [inOrder, result, after'], ?_,
            by simp [inOrder, result, this], by simp⟩
          intro f hf
          exact (List.mem_append.1 hf).elim (below f) (below' f)

end Walk

end DocumentSchema.Validation
