import DocumentSchema.Json.Value

namespace DocumentSchema.Json.Value

@[elab_as_elim]
theorem induction {motive : Value → Prop} (null : motive .null) (bool : ∀ b, motive (.bool b))
    (number : ∀ n, motive (.number n)) (string : ∀ s, motive (.string s))
    (array : ∀ items, (∀ v ∈ items, motive v) → motive (.array items))
    (object : ∀ members, (∀ m ∈ members, motive m.2) → motive (.object members)) (v : Value) :
    motive v := by
  match v with
  | .null => exact null
  | .bool b => exact bool b
  | .number n => exact number n
  | .string s => exact string s
  | .array items =>
    exact array items fun w hw ↦ induction null bool number string array object w
  | .object members =>
    exact object members fun m hm ↦ induction null bool number string array object m.2
termination_by sizeOf v
decreasing_by
  · have := List.sizeOf_lt_of_mem hw
    simp only [Value.array.sizeOf_spec]
    omega
  · have := List.sizeOf_lt_of_mem hm
    obtain ⟨key, w⟩ := m
    simp only [Value.object.sizeOf_spec, Prod.mk.sizeOf_spec] at this ⊢
    omega

variable {α : Type}

mutual

/-- Combines a value with what the fold makes of its members and of its elements. -/
def fold (combine : Value → List (String × α) → List α → α) : Value → α
  | .object members => combine (.object members) (foldMembers combine members) []
  | .array items => combine (.array items) [] (foldItems combine items)
  | v => combine v [] []

def foldMembers (combine : Value → List (String × α) → List α → α) :
    List (String × Value) → List (String × α)
  | [] => []
  | (key, v) :: rest => (key, fold combine v) :: foldMembers combine rest

def foldItems (combine : Value → List (String × α) → List α → α) : List Value → List α
  | [] => []
  | v :: rest => fold combine v :: foldItems combine rest

end

variable {combine : Value → List (String × α) → List α → α}

theorem foldMembers_eq_map (members : List (String × Value)) :
    foldMembers combine members = members.map fun m ↦ (m.1, m.2.fold combine) := by
  induction members with
  | nil => rfl
  | cons m rest ih => rw [foldMembers, ih, List.map_cons]

theorem foldItems_eq_map (items : List Value) :
    foldItems combine items = items.map (fold combine) := by
  induction items with
  | nil => rfl
  | cons v rest ih => rw [foldItems, ih, List.map_cons]

theorem fold_object (members : List (String × Value)) :
    (Value.object members).fold combine =
      combine (.object members) (members.map fun m ↦ (m.1, m.2.fold combine)) [] := by
  rw [fold, foldMembers_eq_map]

theorem fold_array (items : List Value) :
    (Value.array items).fold combine = combine (.array items) [] (items.map (fold combine)) := by
  rw [fold, foldItems_eq_map]

end DocumentSchema.Json.Value
