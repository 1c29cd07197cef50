import DocumentSchema.Proofs.Blueprint.Bodies
import DocumentSchema.Proofs.Schema.Ownership

namespace DocumentSchema.Blueprint

def scopeOf (s : Schema) (openByDefault : Bool) : Scope := ⟨s.typeNames, openByDefault⟩

section Holds

/-- A list of types stands in a schema from a place on. -/
def Holds (s : Schema) (next : Nat) (inner : List TypeDefinition) : Prop :=
  ∀ (k : Nat) (d : TypeDefinition), inner[k]? = some d → s.types[next + k]? = some d

variable {s : Schema} {next : Nat} {inner others : List TypeDefinition} {d : TypeDefinition}

theorem Holds.head (h : Holds s next (d :: inner)) : s.types[next]? = some d := h 0 d rfl

theorem Holds.tail (h : Holds s next (d :: inner)) : Holds s (next + 1) inner := by
  intro k d' hd'
  rw [Nat.add_assoc, Nat.add_comm 1 k]
  exact h (k + 1) d' hd'

theorem Holds.left (h : Holds s next (inner ++ others)) : Holds s next inner := by
  intro k d hd
  obtain ⟨hlt, -⟩ := List.getElem?_eq_some_iff.1 hd
  exact h k d (by rwa [List.getElem?_append_left hlt])

theorem Holds.right (h : Holds s next (inner ++ others)) :
    Holds s (next + inner.length) others := by
  intro k d hd
  rw [Nat.add_assoc]
  refine h _ d ?_
  rwa [List.getElem?_append_right (Nat.le_add_right _ _), Nat.add_sub_cancel_left]

end Holds

section Roots

variable {names : List String} {found all : List (String × Nat)} {roots : List (Located String)}

theorem keys_resolveRoots (h : resolveRoots names found roots = .ok all) :
    all.map (·.1) = found.map (·.1) ++ roots.map (·.value) := by
  induction roots generalizing found with
  | nil =>
    cases h
    simp
  | cons root rest ih =>
    rw [resolveRoots] at h
    split at h
    · cases h
    split at h
    · cases h
    rw [ih h]
    simp

end Roots

variable [PatternEngine]

mutual

inductive RendersType (s : Schema) (openByDefault : Bool) : TypeClause → FieldType → Prop
  | scalar {kind : ScalarKind} {clauses : List ConstraintClause} :
      RendersType s openByDefault (.scalar kind clauses) (.scalar (statedScalar kind clauses))
  | named {name : Located String} {id : Nat} (declared : s.typeNames[id]? = some name.value) :
      RendersType s openByDefault (.named name) (.named id)
  | inline {openness : Option Openness} {fields : List Field} {id : Nat}
      (lt : id < s.types.length) (anonymous : (s.definition id).anonymous = true)
      (closed : (s.definition id).closed = (scopeOf s openByDefault).isClosed openness)
      (rendered : RendersFields s openByDefault fields (s.definition id).fields) :
      RendersType s openByDefault (.inline openness fields) (.inline id)
  | array {item : TypeClause} {type : FieldType} (rendered : RendersType s openByDefault item type) :
      RendersType s openByDefault (.array item) (.array type)

inductive RendersFields (s : Schema) (openByDefault : Bool) :
    List Field → List FieldDefinition → Prop
  | nil : RendersFields s openByDefault [] []
  | cons {field : Field} {rest : List Field} {f : FieldDefinition} {others : List FieldDefinition}
      (name : f.name = field.name.value) (type : RendersType s openByDefault field.type f.type)
      (required : f.required = (!field.isOptional && field.default.isNone))
      (default : f.default = field.default.map (·.value.toValue))
      (rendered : RendersFields s openByDefault rest others) :
      RendersFields s openByDefault (field :: rest) (f :: others)

end

/-- A type with a body of some fields that may say whether it is open. -/
structure RendersBody (s : Schema) (openByDefault : Bool) (openness : Option Openness)
    (fields : List Field) (d : TypeDefinition) : Prop where
  closed : d.closed = (scopeOf s openByDefault).isClosed openness
  fields : RendersFields s openByDefault fields d.fields

/-- A schema with one type for each declaration, in their order and under their names, and with the
designated roots in the order of their designation. -/
structure Renders (s : Schema) (openByDefault : Bool) (items : List Item) : Prop where
  typeNames : s.typeNames = typeNames items
  types : ∀ id d, (declarations items)[id]? = some d → (s.definition id).name = d.name.value ∧
    (s.definition id).anonymous = false ∧
    RendersBody s openByDefault d.openness d.fields (s.definition id)
  rootNames : s.rootNames = (designations items).map (·.value)
  roots : ∀ root ∈ s.roots, s.typeNames[root.2]? = some root.1

namespace Scope

variable {s : Schema} {openByDefault : Bool}

mutual

theorem resolveType_renders {name : String} {next : Nat} {type : FieldType}
    {inner : List TypeDefinition} (clause : TypeClause) (holds : Holds s next inner)
    (h : (scopeOf s openByDefault).resolveType name next clause = .ok (type, inner)) :
    RendersType s openByDefault clause type := by
  cases clause with
  | scalar kind clauses =>
    obtain ⟨-, rfl, -⟩ := resolveType_scalar_eq_ok h
    exact .scalar
  | named name =>
    obtain ⟨id, hid, rfl, -⟩ := resolveType_named_eq_ok h
    exact .named hid
  | inline openness fields =>
    obtain ⟨definitions, others, hfields, rfl, rfl⟩ := resolveType_inline_eq_ok h
    have hplace := holds.head
    have hdefinition := Schema.definition_of_getElem? hplace
    refine .inline (List.getElem?_eq_some_iff.1 hplace).1 ?_ ?_ ?_
    all_goals rw [hdefinition]
    exact resolveFields_renders fields holds.tail hfields
  | array item =>
    obtain ⟨itemType, hitem, rfl⟩ := resolveType_array_eq_ok h
    exact .array (resolveType_renders item holds hitem)

theorem resolveFields_renders {owner : String} {next : Nat} {seen : List String}
    {definitions : List FieldDefinition} {inner : List TypeDefinition} (fields : List Field)
    (holds : Holds s next inner)
    (h : (scopeOf s openByDefault).resolveFields owner next seen fields = .ok (definitions, inner)) :
    RendersFields s openByDefault fields definitions := by
  cases fields with
  | nil =>
    obtain ⟨rfl, -⟩ := resolveFields_nil_eq_ok h
    exact .nil
  | cons field rest =>
    obtain ⟨name, isOptional, clause, default⟩ := field
    obtain ⟨-, type, own, others, more, htype, -, hrest, rfl, rfl⟩ := resolveFields_cons_eq_ok h
    exact .cons rfl (resolveType_renders clause holds.left htype) rfl rfl
      (resolveFields_renders rest holds.right hrest)

end

theorem resolveTypes_renders {next : Nat} {ds : List TypeDeclaration}
    {types inner : List TypeDefinition} (holds : Holds s next inner)
    (h : (scopeOf s openByDefault).resolveTypes next ds = .ok (types, inner)) :
    ∀ (i : Nat) (d : TypeDeclaration), ds[i]? = some d → ∃ t : TypeDefinition,
      types[i]? = some t ∧ t.name = d.name.value ∧ t.anonymous = false ∧
        RendersBody s openByDefault d.openness d.fields t := by
  induction ds generalizing next types inner with
  | nil => simp
  | cons declaration rest ih =>
    obtain ⟨fields, own, others, more, hfields, hrest, rfl, rfl⟩ := resolveTypes_cons_eq_ok h
    intro i d hd
    cases i with
    | zero =>
      obtain rfl := Option.some.inj hd
      exact ⟨_, rfl, rfl, rfl, rfl, resolveFields_renders _ holds.left hfields⟩
    | succ i => exact ih holds.right hrest i d hd

end Scope

variable {origin : String} {openByDefault : Bool} {items : List Item} {s : Schema}

theorem resolve_renders (h : resolve origin openByDefault items = .ok s) :
    Renders s openByDefault items := by
  have hs := resolve_wellFormed h
  have htypeNames := resolve_typeNames h
  obtain ⟨types, inner, roots, rfl, -, -, hresolved, hroots⟩ := resolve_passes h
  rw [← htypeNames] at hresolved
  have holds : Holds ⟨origin, types ++ inner, roots⟩ types.length inner := by
    intro k d hd
    rwa [List.getElem?_append_right (Nat.le_add_right _ _), Nat.add_sub_cancel_left]
  refine ⟨htypeNames, fun id d hd ↦ ?_, keys_resolveRoots hroots, fun root hroot ↦
    hs.roots root.1 root.2 hroot⟩
  obtain ⟨t, ht, hname, hanonymous, hbody⟩ := Scope.resolveTypes_renders holds hresolved id d hd
  have hplace : (types ++ inner)[id]? = some t := by
    rwa [List.getElem?_append_left (List.getElem?_eq_some_iff.1 ht).1]
  rw [Schema.definition_of_getElem? hplace]
  exact ⟨hname, hanonymous, hbody⟩

section Bodies

variable {body : List Field}

mutual

theorem RendersType.exists_place {clause : TypeClause} {type : FieldType}
    (h : RendersType s openByDefault clause type) (hbody : body ∈ clause.bodies) :
    ∃ id < s.types.length, RendersFields s openByDefault body (s.definition id).fields := by
  cases h with
  | scalar | named => cases hbody
  | @inline openness fields id lt anonymous closed rendered =>
    rcases List.mem_cons.1 hbody with rfl | hbody
    · exact ⟨id, lt, rendered⟩
    · exact rendered.exists_place hbody
  | array rendered => exact rendered.exists_place hbody

theorem RendersFields.exists_place {fields : List Field} {fs : List FieldDefinition}
    (h : RendersFields s openByDefault fields fs) (hbody : body ∈ bodiesWithin fields) :
    ∃ id < s.types.length, RendersFields s openByDefault body (s.definition id).fields := by
  cases h with
  | nil => cases hbody
  | cons name type required default rendered =>
    rcases List.mem_append.1 hbody with hbody | hbody
    · exact type.exists_place hbody
    · exact rendered.exists_place hbody

end

theorem Renders.exists_place (h : Renders s openByDefault items)
    (hbody : body ∈ allBodies items) :
    ∃ id < s.types.length, RendersFields s openByDefault body (s.definition id).fields := by
  obtain ⟨d, hd, hbody⟩ := List.mem_flatMap.1 hbody
  obtain ⟨id, hid⟩ := List.mem_iff_getElem?.1 hd
  obtain ⟨-, -, -, hfields⟩ := h.types id d hid
  rcases List.mem_cons.1 hbody with rfl | hbody
  · have hlt : id < s.typeNames.length := by
      rw [h.typeNames, Blueprint.typeNames, List.length_map]
      exact (List.getElem?_eq_some_iff.1 hid).1
    exact ⟨id, Nat.lt_of_lt_of_le hlt Schema.typeNames_length_le, hfields⟩
  · exact hfields.exists_place hbody

end Bodies

end DocumentSchema.Blueprint
