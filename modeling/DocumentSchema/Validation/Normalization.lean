import DocumentSchema.Validation.Scalar
import DocumentSchema.Validation.Walk

namespace DocumentSchema.Validation

open Json (Value)

/-- The walks down a value, one for each type. -/
abbrev Walks := FieldType → Walk Value

def normalizeScalar (s : Scalar) (v : Value) : Walk Value :=
  match scalarViolation? s v with
  | none => .accept v
  | some violation => .reject violation

/-- The member of a normal form that a declared field gives, if it gives one. -/
def normalizeField (members : List (String × Walks)) (f : FieldDefinition) :
    Walk (List (String × Value)) :=
  match members.lookup f.name with
  | some walks => .within (.field f.name) ((walks f.type).map fun v ↦ [(f.name, v)])
  | none =>
    if f.required then .within (.field f.name) (.reject .missingField)
    else .accept (f.default.toList.map fun v ↦ (f.name, v))

/-- The keys that a type does not admit. -/
def refusedKeys (d : TypeDefinition) (keys : List String) : List String :=
  if d.closed then keys.filter fun key ↦ (d.field? key).isNone else []

def normalizeObject (mode : Mode) (d : TypeDefinition) (members : List (String × Walks)) :
    Walk Value :=
  let declared := d.fields.map (normalizeField members)
  let refused := (refusedKeys d (members.map (·.1))).map fun key ↦
    .within (.field key) (.reject .unknownField)
  (Walk.inOrder mode (declared ++ refused)).map fun members ↦ .object members.flatten

def normalizeArray (mode : Mode) (item : FieldType) (items : List Walks) : Walk Value :=
  (Walk.inOrder mode (items.mapIdx fun i walks ↦ .within (.index i) (walks item))).map .array

mutual

def normalize (s : Schema) (mode : Mode) : Value → Walks
  | .object members, .named id => normalizeObject mode (s.definition id) (memberWalks s mode members)
  | .object members, .inline id => normalizeObject mode (s.definition id) (memberWalks s mode members)
  | .array items, .array item => normalizeArray mode item (itemWalks s mode items)
  | v, .scalar scalar => normalizeScalar scalar v
  | v, .named _ | v, .inline _ => .reject (.typeMismatch .object v.kind)
  | v, .array _ => .reject (.typeMismatch .array v.kind)

def memberWalks (s : Schema) (mode : Mode) : List (String × Value) → List (String × Walks)
  | [] => []
  | (key, v) :: rest => (key, normalize s mode v) :: memberWalks s mode rest

def itemWalks (s : Schema) (mode : Mode) : List Value → List Walks
  | [] => []
  | v :: rest => normalize s mode v :: itemWalks s mode rest

end

section Discipline

open Walk

variable {mode : Mode}

theorem normalizeField_disciplined {members : List (String × Walks)}
    (h : ∀ m ∈ members, ∀ type, Disciplined mode (m.2 type)) (f : FieldDefinition) :
    Disciplined mode (normalizeField members f) := by
  unfold normalizeField
  cases found : members.lookup f.name with
  | some walks =>
    obtain ⟨l₁, l₂, rfl, -⟩ := List.lookup_eq_some_iff.1 found
    exact ((h (f.name, walks) (by simp) f.type).map _).within _
  | none =>
    dsimp only
    split
    · exact (reject_disciplined _).within _
    · exact accept_disciplined _

theorem normalizeObject_disciplined {members : List (String × Walks)}
    (h : ∀ m ∈ members, ∀ type, Disciplined mode (m.2 type)) (d : TypeDefinition) :
    Disciplined mode (normalizeObject mode d members) := by
  refine (inOrder_disciplined fun w hw ↦ ?_).map _
  rcases List.mem_append.1 hw with hw | hw
  · obtain ⟨f, -, rfl⟩ := List.mem_map.1 hw
    exact normalizeField_disciplined h f
  · obtain ⟨key, -, rfl⟩ := List.mem_map.1 hw
    exact (reject_disciplined _).within _

theorem normalizeArray_disciplined {items : List Walks}
    (h : ∀ walks ∈ items, ∀ type, Disciplined mode (walks type)) (item : FieldType) :
    Disciplined mode (normalizeArray mode item items) := by
  refine (inOrder_disciplined fun w hw ↦ ?_).map _
  obtain ⟨i, hi, rfl⟩ := List.mem_mapIdx.1 hw
  exact (h _ (List.getElem_mem hi) item).within _

theorem normalizeScalar_disciplined (s : Scalar) (v : Value) :
    Disciplined mode (normalizeScalar s v) := by
  unfold normalizeScalar
  split
  · exact accept_disciplined _
  · exact reject_disciplined _

mutual

theorem normalize_disciplined (s : Schema) (v : Value) (type : FieldType) :
    Disciplined mode (normalize s mode v type) := by
  fun_cases normalize with
  | case1 members | case2 members => exact normalizeObject_disciplined (memberWalks_disciplined s members) _
  | case3 items item => exact normalizeArray_disciplined (itemWalks_disciplined s items) item
  | case4 => exact normalizeScalar_disciplined _ v
  | case5 | case6 | case7 => exact reject_disciplined _

theorem memberWalks_disciplined (s : Schema) (members : List (String × Value)) :
    ∀ m ∈ memberWalks s mode members, ∀ type, Disciplined mode (m.2 type) := by
  cases members with
  | nil => simp [memberWalks]
  | cons m rest =>
    obtain ⟨key, v⟩ := m
    simp only [memberWalks, List.forall_mem_cons]
    exact ⟨fun type ↦ normalize_disciplined s v type, memberWalks_disciplined s rest⟩

theorem itemWalks_disciplined (s : Schema) (items : List Value) :
    ∀ walks ∈ itemWalks s mode items, ∀ type, Disciplined mode (walks type) := by
  cases items with
  | nil => simp [itemWalks]
  | cons v rest =>
    simp only [itemWalks, List.forall_mem_cons]
    exact ⟨fun type ↦ normalize_disciplined s v type, itemWalks_disciplined s rest⟩

end

end Discipline

end DocumentSchema.Validation
