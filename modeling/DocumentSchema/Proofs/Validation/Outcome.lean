import DocumentSchema.Proofs.Json.Fold
import DocumentSchema.Proofs.Json.Members
import DocumentSchema.Proofs.Validation.Scalar
import DocumentSchema.Validation.Normalization

namespace DocumentSchema

open Json (Kind Value)

namespace FieldType

def objectId? : FieldType → Option Nat
  | .named id | .inline id => some id
  | .scalar _ | .array _ => none

def kind : FieldType → Kind
  | .scalar s => s.kind.toKind
  | .named _ | .inline _ => .object
  | .array _ => .array

def admitsKind : FieldType → Value → Bool
  | .scalar s, v => Validation.isOfKind s.kind v
  | .named _, .object _ | .inline _, .object _ | .array _, .array _ => true
  | _, _ => false

theorem admitsKind_object {type : FieldType} {id : Nat} (h : type.objectId? = some id)
    (members : List (String × Value)) : type.admitsKind (.object members) = true := by
  cases type with
  | named | inline => rfl
  | scalar | array => cases h

end FieldType

@[elab_as_elim]
theorem typedInduction {motive : Value → FieldType → Prop}
    (scalar : ∀ v scalar, motive v (.scalar scalar))
    (wrongKind : ∀ v (type : FieldType), type.admitsKind v = false → motive v type)
    (array : ∀ items item, (∀ v ∈ items, ∀ type, motive v type) →
      motive (.array items) (.array item))
    (object : ∀ members (type : FieldType) id, type.objectId? = some id →
      (∀ m ∈ members, ∀ type, motive m.2 type) → motive (.object members) type)
    (v : Value) (type : FieldType) : motive v type := by
  induction v using Value.induction generalizing type with
  | object members ih =>
    cases type with
    | scalar s => exact scalar _ s
    | named id | inline id => exact object members _ id rfl ih
    | array => exact wrongKind _ _ rfl
  | array items ih =>
    cases type with
    | scalar s => exact scalar _ s
    | named | inline => exact wrongKind _ _ rfl
    | array item => exact array items item ih
  | null | bool | number | string =>
    cases type with
    | scalar s => exact scalar _ s
    | named | inline | array => exact wrongKind _ _ rfl

namespace Validation

def Finding.under (p : Path) (f : Finding) : Finding := ⟨p ++ f.path, f.violation⟩

@[simp] theorem Finding.under_path (p : Path) (f : Finding) : (f.under p).path = p ++ f.path := rfl

@[simp] theorem Finding.under_nil : Finding.under [] = id := rfl

@[simp] theorem Finding.under_under (p q : Path) (f : Finding) :
    (f.under q).under p = f.under (p ++ q) := by simp [under]

/-- What is wrong with the member for a declared field, or that there is none. -/
def fieldFindings (members : List (String × (FieldType → List Finding))) (f : FieldDefinition) :
    List Finding :=
  match members.lookup f.name with
  | some found => (found f.type).map (.under [.field f.name])
  | none => if f.required then [⟨[.field f.name], .missingField⟩] else []

def objectFindings (d : TypeDefinition) (members : List (String × (FieldType → List Finding))) :
    List Finding :=
  d.fields.flatMap (fieldFindings members) ++
    (refusedKeys d (members.map (·.1))).map fun key ↦ ⟨[.field key], .unknownField⟩

def arrayFindings (item : FieldType) (items : List (FieldType → List Finding)) : List Finding :=
  (items.mapIdx fun i found ↦ (found item).map (.under [.index i])).flatten

/-- All that is wrong with a value under a type, in the order of a walk. Paths start at the value. -/
def findings (s : Schema) : Value → FieldType → List Finding :=
  Value.fold fun v members items type ↦
    match type, v with
    | .scalar scalar, v => (scalarViolation? scalar v).toList.map (⟨[], ·⟩)
    | .named id, .object _ | .inline id, .object _ => objectFindings (s.definition id) members
    | .array item, .array _ => arrayFindings item items
    | type, v => [⟨[], .typeMismatch type.kind v.kind⟩]

def normalField (members : List (String × (FieldType → Value))) (f : FieldDefinition) :
    List (String × Value) :=
  match members.lookup f.name with
  | some normal => [(f.name, normal f.type)]
  | none => f.default.toList.map (f.name, ·)

/-- The normal form of a value under a type to which it conforms. -/
def normalForm (s : Schema) : Value → FieldType → Value :=
  Value.fold fun v members items type ↦
    match type, v with
    | .named id, .object _ | .inline id, .object _ =>
      .object ((s.definition id).fields.flatMap (normalField members))
    | .array item, .array _ => .array (items.map (· item))
    | _, v => v

section Equations

variable (s : Schema)

@[simp] theorem findings_scalar (v : Value) (scalar : Scalar) :
    findings s v (.scalar scalar) = (scalarViolation? scalar v).toList.map (⟨[], ·⟩) := by
  cases v <;> rfl

theorem findings_object {type : FieldType} {id : Nat} (h : type.objectId? = some id)
    (members : List (String × Value)) : findings s (.object members) type =
      objectFindings (s.definition id) (members.map fun m ↦ (m.1, findings s m.2)) := by
  rw [findings, Value.fold_object]
  cases type <;> cases h <;> rfl

@[simp] theorem findings_array (items : List Value) (item : FieldType) :
    findings s (.array items) (.array item) = arrayFindings item (items.map (findings s)) := by
  rw [findings, Value.fold_array]

theorem findings_of_kind {v : Value} {type : FieldType} (h : type.admitsKind v = false) :
    findings s v type = [⟨[], .typeMismatch type.kind v.kind⟩] := by
  cases type with
  | scalar scalar =>
    have hkind : isOfKind scalar.kind v = false := h
    rw [findings_scalar, scalarViolation?_of_not_kind hkind]
    rfl
  | named | inline | array => cases v <;> first | rfl | cases h

@[simp] theorem normalForm_scalar (v : Value) (scalar : Scalar) :
    normalForm s v (.scalar scalar) = v := by
  cases v <;> rfl

theorem normalForm_of_kind {v : Value} {type : FieldType} (h : type.admitsKind v = false) :
    normalForm s v type = v := by
  cases type with
  | scalar scalar => exact normalForm_scalar s v scalar
  | named | inline | array => cases v <;> first | rfl | cases h

theorem normalForm_object {type : FieldType} {id : Nat} (h : type.objectId? = some id)
    (members : List (String × Value)) : normalForm s (.object members) type =
      .object ((s.definition id).fields.flatMap
        (normalField (members.map fun m ↦ (m.1, normalForm s m.2)))) := by
  rw [normalForm, Value.fold_object]
  cases type <;> cases h <;> rfl

@[simp] theorem normalForm_array (items : List Value) (item : FieldType) :
    normalForm s (.array items) (.array item) = .array (items.map (normalForm s · item)) := by
  rw [normalForm, Value.fold_array]
  simp

end Equations

/-- The findings that a mode lets a walk come to. -/
def Mode.limit : Mode → List Finding → List Finding
  | .failFast, found => found.take 1
  | .collect, found => found

namespace Walk

variable {α β : Type} {mode : Mode}

/-- Wherever it starts, a walk finds as much of `found` as its mode lets it, and gives `a` if there
is nothing to find. -/
def Performs (mode : Mode) (w : Walk α) (a : α) (found : List Finding) : Prop :=
  ∀ t, w t = (if found.isEmpty then some a else none,
    ⟨t.path, t.findings ++ (mode.limit found).map (.under t.path)⟩)

theorem accept_performs (a : α) : Performs mode (accept a) a [] := by
  intro t
  cases mode <;> simp [accept, Mode.limit]

theorem reject_performs (v : Violation) (a : α) : Performs mode (reject v) a [⟨[], v⟩] := by
  intro t
  cases mode <;> simp [reject, Mode.limit, Finding.under]

theorem Performs.map {w : Walk α} {a : α} {found : List Finding} (h : Performs mode w a found)
    (f : α → β) : Performs mode (w.map f) (f a) found := by
  intro t
  rw [Walk.map, h t]
  cases found <;> simp

@[simp] theorem Mode.limit_nil : mode.limit [] = [] := by cases mode <;> rfl

theorem Mode.limit_map (g : Finding → Finding) (found : List Finding) :
    mode.limit (found.map g) = (mode.limit found).map g := by
  cases mode <;> simp [Mode.limit]

theorem Performs.within {w : Walk α} {a : α} {found : List Finding} (h : Performs mode w a found)
    (s : Segment) : Performs mode (w.within s) a (found.map (.under [s])) := by
  intro t
  rw [Walk.within, h ⟨t.path ++ [s], t.findings⟩, Mode.limit_map]
  simp [Function.comp_def]

/-- What the walks of a sequence do, one after the other. -/
inductive AllPerform (mode : Mode) : List (Walk α) → List α → List Finding → Prop
  | nil : AllPerform mode [] [] []
  | cons {w : Walk α} {a : α} {found more : List Finding} {ws : List (Walk α)} {as : List α}
      (first : Performs mode w a found) (rest : AllPerform mode ws as more) :
      AllPerform mode (w :: ws) (a :: as) (found ++ more)

theorem AllPerform.append {ws ws' : List (Walk α)} {as as' : List α} {found found' : List Finding}
    (h : AllPerform mode ws as found) (h' : AllPerform mode ws' as' found') :
    AllPerform mode (ws ++ ws') (as ++ as') (found ++ found') := by
  induction h with
  | nil => exact h'
  | cons first _ ih =>
    rw [List.append_assoc]
    exact .cons first ih

theorem allPerform_map {γ : Type} {l : List γ} {w : γ → Walk α} {a : γ → α}
    {found : γ → List Finding} (h : ∀ c ∈ l, Performs mode (w c) (a c) (found c)) :
    AllPerform mode (l.map w) (l.map a) (l.flatMap found) := by
  induction l with
  | nil => exact .nil
  | cons c l ih =>
    rw [List.flatMap_cons]
    exact .cons (h c List.mem_cons_self) (ih fun c hc ↦ h c (List.mem_cons_of_mem _ hc))

theorem AllPerform.inOrder {ws : List (Walk α)} {as : List α} {found : List Finding}
    (h : AllPerform mode ws as found) : Performs mode (inOrder mode ws) as found := by
  induction h with
  | nil => exact accept_performs []
  | @cons w a found more ws as first _ ih =>
    intro t
    have hfirst := first t
    cases found with
    | nil =>
      have hrest := ih t
      simp only [List.isEmpty_nil, if_true, Mode.limit_nil, List.map_nil, List.append_nil] at hfirst
      simp only [Walk.inOrder, hfirst, Walk.map, hrest, List.nil_append]
      cases more <;> rfl
    | cons f found =>
      simp only [List.isEmpty_cons, Bool.false_eq_true, if_false] at hfirst
      cases mode with
      | failFast => simp [Walk.inOrder, hfirst, Mode.limit]
      | collect => simp [Walk.inOrder, hfirst, Mode.limit, ih ⟨t.path, _⟩]

end Walk

section Normalization

open Walk

variable {mode : Mode} (s : Schema)

theorem memberWalks_eq_map (members : List (String × Value)) :
    memberWalks s mode members = members.map fun m ↦ (m.1, normalize s mode m.2) := by
  induction members with
  | nil => rfl
  | cons m rest ih => rw [memberWalks, ih, List.map_cons]

theorem itemWalks_eq_map (items : List Value) :
    itemWalks s mode items = items.map (normalize s mode) := by
  induction items with
  | nil => rfl
  | cons v rest ih => rw [itemWalks, ih, List.map_cons]

variable {s}

theorem normalizeScalar_performs (scalar : Scalar) (v : Value) :
    Performs mode (normalizeScalar scalar v) v
      ((scalarViolation? scalar v).toList.map (⟨[], ·⟩)) := by
  unfold normalizeScalar
  cases scalarViolation? scalar v with
  | none => exact accept_performs v
  | some violation => exact reject_performs violation v

/-- A walk down a value does what the recursion over the value says. -/
def Agrees (mode : Mode) (s : Schema) (v : Value) : Prop :=
  ∀ type, Performs mode (normalize s mode v type) (normalForm s v type) (findings s v type)

theorem normalizeField_performs {members : List (String × Value)}
    (h : ∀ m ∈ members, Agrees mode s m.2) (f : FieldDefinition) :
    Performs mode (normalizeField (members.map fun m ↦ (m.1, normalize s mode m.2)) f)
      (normalField (members.map fun m ↦ (m.1, normalForm s m.2)) f)
      (fieldFindings (members.map fun m ↦ (m.1, findings s m.2)) f) := by
  simp only [normalizeField, normalField, fieldFindings, Json.lookup_map_snd]
  cases found : members.lookup f.name with
  | some v =>
    have hv : Agrees mode s v := h _ (Json.mem_of_lookup found)
    exact ((hv f.type).map _).within _
  | none =>
    cases f.required with
    | true => exact (reject_performs _ _).within _
    | false => exact accept_performs _

theorem normalizeObject_performs {members : List (String × Value)}
    (h : ∀ m ∈ members, Agrees mode s m.2) (d : TypeDefinition) :
    Performs mode (normalizeObject mode d (members.map fun m ↦ (m.1, normalize s mode m.2)))
      (.object (d.fields.flatMap (normalField (members.map fun m ↦ (m.1, normalForm s m.2)))))
      (objectFindings d (members.map fun m ↦ (m.1, findings s m.2))) := by
  have hfields := allPerform_map (l := d.fields) fun f _ ↦ normalizeField_performs h f
  have hrefused := allPerform_map (l := refusedKeys d (members.map (·.1))) fun key _ ↦
    (reject_performs .unknownField ([] : List (String × Value)) : Performs mode _ _ _).within
      (.field key)
  have hempty : ((refusedKeys d (members.map (·.1))).map fun _ ↦
      ([] : List (String × Value))).flatten = [] := by simp
  have hall := (hfields.append hrefused).inOrder.map fun members ↦ Value.object members.flatten
  rw [List.flatten_append, hempty, List.append_nil, ← List.flatMap_def] at hall
  simp only [List.map_singleton, ← List.map_eq_flatMap] at hall
  simp only [normalizeObject, objectFindings, List.map_map, Function.comp_def]
  exact hall

theorem normalizeArray_performs {items : List Value} (h : ∀ v ∈ items, Agrees mode s v)
    (item : FieldType) :
    Performs mode (normalizeArray mode item (items.map (normalize s mode)))
      (.array (items.map (normalForm s · item)))
      (arrayFindings item (items.map (findings s))) := by
  have hall := (allPerform_map (l := items.zipIdx) fun p hp ↦
    (h p.1 (List.fst_mem_of_mem_zipIdx hp) item).within (.index p.2)).inOrder.map Value.array
  have hvalues : items.zipIdx.map (fun p ↦ normalForm s p.1 item) =
      items.map (normalForm s · item) :=
    calc
      _ = (items.zipIdx.map Prod.fst).map (normalForm s · item) := List.map_map.symm
      _ = items.map (normalForm s · item) := by rw [List.zipIdx_map_fst]
  rw [hvalues] at hall
  simpa [normalizeArray, arrayFindings, List.mapIdx_eq_zipIdx_map, List.zipIdx_map, List.flatMap_def,
    Function.comp_def] using hall

theorem normalize_scalar (v : Value) (scalar : Scalar) :
    normalize s mode v (.scalar scalar) = normalizeScalar scalar v := by
  cases v <;> rw [normalize]

theorem normalize_object {type : FieldType} {id : Nat} (isObject : type.objectId? = some id)
    (members : List (String × Value)) : normalize s mode (.object members) type =
      normalizeObject mode (s.definition id) (members.map fun m ↦ (m.1, normalize s mode m.2)) := by
  rw [← memberWalks_eq_map]
  cases type <;> cases isObject <;> rw [normalize]

theorem normalize_of_kind {v : Value} {type : FieldType} (h : type.admitsKind v = false) :
    normalize s mode v type = .reject (.typeMismatch type.kind v.kind) := by
  cases type with
  | scalar scalar =>
    have hkind : isOfKind scalar.kind v = false := h
    rw [normalize_scalar, normalizeScalar, scalarViolation?_of_not_kind hkind]
    rfl
  | named | inline | array => cases v <;> first | rfl | cases h

theorem normalize_performs (v : Value) : Agrees mode s v := by
  intro type
  induction v, type using typedInduction with
  | scalar v scalar => simpa [normalize_scalar] using normalizeScalar_performs scalar v
  | wrongKind v type h =>
    rw [normalize_of_kind h, findings_of_kind s h]
    exact reject_performs _ _
  | array items item ih =>
    rw [normalize, itemWalks_eq_map, normalForm_array, findings_array]
    exact normalizeArray_performs ih item
  | object members type id isObject ih =>
    rw [normalize_object isObject, normalForm_object s isObject, findings_object s isObject]
    exact normalizeObject_performs ih (s.definition id)

end Normalization

end Validation

end DocumentSchema
