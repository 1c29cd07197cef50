import DocumentSchema.Proofs.Blueprint.Exchange
import DocumentSchema.Proofs.Blueprint.Rendering

namespace DocumentSchema

/-- The fields of a type, one of them without its type and without a default. -/
structure FieldSlot where
  before : List FieldDefinition
  name : String
  required : Bool
  after : List FieldDefinition

def FieldSlot.fill (slot : FieldSlot) (type : FieldType) : List FieldDefinition :=
  slot.before ++ ⟨slot.name, type, slot.required, none⟩ :: slot.after

/-- A list of types with such a field in one of them. -/
structure TypeSlot where
  before : List TypeDefinition
  name : String
  field : FieldSlot
  closed : Bool
  anonymous : Bool
  after : List TypeDefinition

def TypeSlot.fill (slot : TypeSlot) (type : FieldType) : List TypeDefinition :=
  slot.before ++ ⟨slot.name, slot.field.fill type, slot.closed, slot.anonymous⟩ :: slot.after

/-- A schema with such a field. -/
structure Schema.Slot where
  origin : String
  types : TypeSlot
  roots : List (String × Nat)

def Schema.Slot.fill (slot : Schema.Slot) (type : FieldType) : Schema :=
  ⟨slot.origin, slot.types.fill type, slot.roots⟩

section Slots

variable {type type' : FieldType}

theorem FieldSlot.fill_injective (slot : FieldSlot) (h : slot.fill type = slot.fill type') :
    type = type' := by
  obtain ⟨h, -⟩ := List.cons.inj (List.append_cancel_left h)
  cases h
  rfl

theorem TypeSlot.fill_injective (slot : TypeSlot) (h : slot.fill type = slot.fill type') :
    type = type' := by
  obtain ⟨h, -⟩ := List.cons.inj (List.append_cancel_left h)
  refine slot.field.fill_injective ?_
  injection h

theorem Schema.Slot.fill_injective (slot : Schema.Slot) (h : slot.fill type = slot.fill type') :
    type = type' := by
  refine slot.types.fill_injective ?_
  injection h

theorem TypeSlot.length_fill (slot : TypeSlot) (type type' : FieldType) :
    (slot.fill type).length = (slot.fill type').length := by
  simp only [fill, List.length_append, List.length_cons]

def TypeSlot.prepend (types : List TypeDefinition) (slot : TypeSlot) : TypeSlot :=
  { slot with before := types ++ slot.before }

def TypeSlot.append (slot : TypeSlot) (types : List TypeDefinition) : TypeSlot :=
  { slot with after := slot.after ++ types }

@[simp] theorem TypeSlot.fill_prepend (types : List TypeDefinition) (slot : TypeSlot) (type : FieldType) :
    (slot.prepend types).fill type = types ++ slot.fill type := List.append_assoc _ _ _

@[simp] theorem TypeSlot.fill_append (slot : TypeSlot) (types : List TypeDefinition) (type : FieldType) :
    (slot.append types).fill type = slot.fill type ++ types := by
  simp [fill, append]

end Slots

namespace Blueprint

open DocumentSchema.Except (bind_eq_ok_iff)

namespace Scope

variable {scope : Scope} {x : Exchange} {old new : FieldType}

/-- What becomes of fields and the types written in place inside them: the field with the new type is
among the fields, or inside one of the types. -/
inductive Refilled (x : Exchange) (old new : FieldType) :
    List FieldDefinition × List TypeDefinition → List FieldDefinition × List TypeDefinition → Prop
  | here (slot : FieldSlot) (named : slot.name = x.head.name.value) (inner : List TypeDefinition) :
      Refilled x old new (slot.fill old, inner) (slot.fill new, inner)
  | inside (slot : TypeSlot) (named : slot.field.name = x.head.name.value)
      (definitions : List FieldDefinition) :
      Refilled x old new (definitions, slot.fill old) (definitions, slot.fill new)

theorem Refilled.cons {fields fields' : List FieldDefinition} {inner inner' : List TypeDefinition}
    (h : Refilled x old new (fields, inner) (fields', inner')) (f : FieldDefinition)
    (types : List TypeDefinition) :
    Refilled x old new (f :: fields, types ++ inner) (f :: fields', types ++ inner') := by
  cases h with
  | here slot named inner =>
    exact .here { slot with before := f :: slot.before } named _
  | inside slot named definitions =>
    rw [← slot.fill_prepend types, ← slot.fill_prepend types]
    exact .inside (slot.prepend types) named _

/-- What becomes of declared types and the types written in place inside them: the field with the new type
is in one of the former or in one of the latter. -/
inductive TypesRefilled (x : Exchange) (old new : FieldType) :
    List TypeDefinition × List TypeDefinition → List TypeDefinition × List TypeDefinition → Prop
  | declared (slot : TypeSlot) (named : slot.field.name = x.head.name.value) (inner : List TypeDefinition) :
      TypesRefilled x old new (slot.fill old, inner) (slot.fill new, inner)
  | inPlace (slot : TypeSlot) (named : slot.field.name = x.head.name.value) (types : List TypeDefinition) :
      TypesRefilled x old new (types, slot.fill old) (types, slot.fill new)

theorem TypesRefilled.cons {types types' inner inner' : List TypeDefinition}
    (h : TypesRefilled x old new (types, inner) (types', inner')) (d : TypeDefinition)
    (own : List TypeDefinition) :
    TypesRefilled x old new (d :: types, own ++ inner) (d :: types', own ++ inner') := by
  cases h with
  | declared slot named inner => exact .declared (slot.prepend [d]) named _
  | inPlace slot named types =>
    rw [← slot.fill_prepend own, ← slot.fill_prepend own]
    exact .inPlace (slot.prepend own) named _

theorem TypesRefilled.exists_slot {types types' inner inner' : List TypeDefinition}
    (h : TypesRefilled x old new (types, inner) (types', inner')) : ∃ slot : TypeSlot,
      slot.field.name = x.head.name.value ∧ types ++ inner = slot.fill old ∧
        types' ++ inner' = slot.fill new := by
  cases h with
  | declared slot named inner =>
    exact ⟨slot.append inner, named, (slot.fill_append _ _).symm, (slot.fill_append _ _).symm⟩
  | inPlace slot named types =>
    exact ⟨slot.prepend types, named, (slot.fill_prepend _ _).symm, (slot.fill_prepend _ _).symm⟩

variable [PatternEngine]

theorem resolveFields_cons_eq_ok_iff {owner : String} {next : Nat} {seen : List String}
    {name : Located String} {isOptional : Bool} {clause : TypeClause} {default : Option (Located Literal)}
    {rest : List Field} {result : List FieldDefinition × List TypeDefinition} :
    scope.resolveFields owner next seen (⟨name, isOptional, clause, default⟩ :: rest) = .ok result ↔
      seen.contains name.value = false ∧ ∃ type own value others more,
        scope.resolveType s!"{owner}.{name.value}" next clause = .ok (type, own) ∧
        default.mapM (resolveDefault name.value type) = .ok value ∧
        scope.resolveFields owner (next + own.length) (name.value :: seen) rest = .ok (others, more) ∧
        result = (⟨name.value, type, !isOptional && value.isNone, value⟩ :: others, own ++ more) := by
  rw [resolveFields]
  cases seen.contains name.value with
  | true => simp [refuse, bind, Except.bind]
  | false =>
    simp only [Bool.false_eq_true, if_false, true_and]
    constructor
    · intro h
      obtain ⟨⟨type, own⟩, htype, h⟩ := bind_eq_ok_iff.1 h
      obtain ⟨value, hdefault, h⟩ := bind_eq_ok_iff.1 h
      obtain ⟨⟨others, more⟩, hrest, h⟩ := bind_eq_ok_iff.1 h
      exact ⟨type, own, value, others, more, htype, hdefault, hrest, (Except.ok.inj h).symm⟩
    · rintro ⟨type, own, value, others, more, htype, hdefault, hrest, rfl⟩
      exact bind_eq_ok_iff.2 ⟨_, htype, bind_eq_ok_iff.2 ⟨_, hdefault, bind_eq_ok_iff.2 ⟨_, hrest, rfl⟩⟩⟩

/-- A type that resolves without a type written in place in it, under any name and in any place. -/
def Plain (scope : Scope) (clause : TypeClause) (type : FieldType) : Prop :=
  ∀ name next, scope.resolveType name next clause = .ok (type, [])

mutual

theorem resolveType_exchange {name : String} {next : Nat} {clause clause' : TypeClause}
    {type : FieldType} {inner : List TypeDefinition} (hold : scope.Plain x.old old)
    (hnew : scope.Plain x.new new) (h : x.InType clause clause')
    (resolved : scope.resolveType name next clause = .ok (type, inner)) :
    ∃ slot : TypeSlot, slot.field.name = x.head.name.value ∧ inner = slot.fill old ∧
      scope.resolveType name next clause' = .ok (type, slot.fill new) := by
  cases h with
  | @inline openness fields fields' within =>
    rw [resolveType] at resolved ⊢
    obtain ⟨⟨definitions, others⟩, hfields, h⟩ := bind_eq_ok_iff.1 resolved
    cases h
    obtain ⟨result, hresult, refilled⟩ := resolveFields_exchange hold hnew within hfields
    rw [hresult]
    cases refilled with
    | here slot named =>
      exact ⟨⟨[], name, slot, scope.isClosed openness, true, others⟩, named, rfl, rfl⟩
    | inside slot named =>
      refine ⟨slot.prepend [⟨name, definitions, scope.isClosed openness, true⟩], named, ?_, ?_⟩
      all_goals rw [slot.fill_prepend]
      all_goals rfl
  | array within =>
    rw [resolveType] at resolved ⊢
    obtain ⟨⟨item, others⟩, hitem, h⟩ := bind_eq_ok_iff.1 resolved
    cases h
    obtain ⟨slot, named, rfl, hitem'⟩ := resolveType_exchange hold hnew within hitem
    exact ⟨slot, named, rfl, by rw [hitem']; rfl⟩

theorem resolveFields_exchange {owner : String} {next : Nat} {seen : List String}
    {fields fields' : List Field} {definitions : List FieldDefinition} {inner : List TypeDefinition}
    (hold : scope.Plain x.old old)
    (hnew : scope.Plain x.new new) (h : x.InFields fields fields')
    (resolved : scope.resolveFields owner next seen fields = .ok (definitions, inner)) :
    ∃ result, scope.resolveFields owner next seen fields' = .ok result ∧
      Refilled x old new (definitions, inner) result := by
  cases h with
  | here rest =>
    rw [Exchange.oldField, resolveFields_cons_eq_ok_iff] at resolved
    obtain ⟨unseen, type, own, value, others, more, htype, hdefault, hrest, h⟩ := resolved
    cases h
    cases (hold _ _).symm.trans htype
    cases hdefault
    refine ⟨_, resolveFields_cons_eq_ok_iff.2 ⟨unseen, new, [], none, others, more, hnew _ _, rfl, hrest,
      rfl⟩, ?_⟩
    exact .here ⟨[], _, _, others⟩ rfl more
  | @inside fieldName isOptional clause clause' default rest within =>
    rw [resolveFields_cons_eq_ok_iff] at resolved
    obtain ⟨unseen, type, own, value, others, more, htype, hdefault, hrest, h⟩ := resolved
    cases h
    obtain ⟨slot, named, rfl, htype'⟩ := resolveType_exchange hold hnew within htype
    -- There are as many types inside as before, so the places of those to come stay what they are.
    rw [slot.length_fill old new] at hrest
    refine ⟨_, resolveFields_cons_eq_ok_iff.2 ⟨unseen, type, _, value, others, more, htype', hdefault,
      hrest, rfl⟩, ?_⟩
    rw [← slot.fill_append, ← slot.fill_append]
    exact .inside (slot.append more) named _
  | @later field rest rest' within =>
    obtain ⟨fieldName, isOptional, clause, default⟩ := field
    rw [resolveFields_cons_eq_ok_iff] at resolved
    obtain ⟨unseen, type, own, value, others, more, htype, hdefault, hrest, h⟩ := resolved
    cases h
    obtain ⟨⟨others', more'⟩, hrest', refilled⟩ := resolveFields_exchange hold hnew within hrest
    exact ⟨_, resolveFields_cons_eq_ok_iff.2 ⟨unseen, type, own, value, others', more', htype, hdefault,
      hrest', rfl⟩, refilled.cons _ own⟩

end

theorem resolveTypes_exchange {next : Nat} {items items' : List Item} {types inner : List TypeDefinition}
    (hold : scope.Plain x.old old) (hnew : scope.Plain x.new new) (h : x.InItems items items')
    (resolved : scope.resolveTypes next (declarations items) = .ok (types, inner)) :
    ∃ result, scope.resolveTypes next (declarations items') = .ok result ∧
      TypesRefilled x old new (types, inner) result := by
  induction h generalizing next types inner with
  | @here name isRoot openness fields fields' rest within =>
    change scope.resolveTypes next (⟨name, isRoot, openness, fields⟩ :: declarations rest) = _ at resolved
    obtain ⟨definitions, own, others, more, hfields, hrest, rfl, rfl⟩ := resolveTypes_cons_eq_ok resolved
    obtain ⟨⟨definitions', own'⟩, hfields', refilled⟩ := resolveFields_exchange hold hnew within hfields
    have hlength : own'.length = own.length := by
      cases refilled with
      | here => rfl
      | inside => exact TypeSlot.length_fill _ _ _
    rw [← hlength] at hrest
    refine ⟨_, bind_eq_ok_iff.2 ⟨_, hfields', bind_eq_ok_iff.2 ⟨_, hrest, rfl⟩⟩, ?_⟩
    cases refilled with
    | here slot named =>
      exact .declared ⟨[], name.value, slot, scope.isClosed openness, false, others⟩ named _
    | inside slot named =>
      rw [← slot.fill_append more, ← slot.fill_append more]
      exact .inPlace (slot.append more) named _
  | @later item rest rest' within ih =>
    cases item with
    | root name => exact ih resolved
    | type d =>
      obtain ⟨definitions, own, others, more, hfields, hrest, rfl, rfl⟩ := resolveTypes_cons_eq_ok resolved
      obtain ⟨⟨others', more'⟩, hrest', refilled⟩ := ih hrest
      exact ⟨_, bind_eq_ok_iff.2 ⟨_, hfields, bind_eq_ok_iff.2 ⟨_, hrest', rfl⟩⟩, refilled.cons _ own⟩

end Scope

section Items

variable {x : Exchange} {old new : FieldType} {items items' : List Item} {s s' : Schema}
  {openByDefault : Bool} {origin : String}

theorem declaredNames_exchange (h : x.InItems items items') (seen : List String) :
    declaredNames seen (declarations items') = declaredNames seen (declarations items) := by
  induction h generalizing seen with
  | here => rfl
  | @later item rest rest' within ih =>
    cases item with
    | root name => exact ih seen
    | type d =>
      change declaredNames seen (d :: declarations rest') = declaredNames seen (d :: declarations rest)
      rw [declaredNames, declaredNames, ih]

theorem designations_exchange (h : x.InItems items items') : designations items' = designations items := by
  induction h with
  | here => rfl
  | @later item rest rest' within ih =>
    cases item with
    | root name => exact congrArg (name :: ·) ih
    | type d =>
      cases hroot : d.isRoot with
      | true =>
        have hcons (items : List Item) : designations (.type d :: items) = d.name :: designations items := by
          simp [designations, Item.root?, hroot]
        rw [hcons, hcons, ih]
      | false =>
        have hcons (items : List Item) : designations (.type d :: items) = designations items := by
          simp [designations, Item.root?, hroot]
        rw [hcons, hcons, ih]

theorem typeNames_exchange (h : x.InItems items items') : typeNames items' = typeNames items := by
  induction h with
  | here => rfl
  | @later item rest rest' within ih =>
    cases item with
    | root name => exact ih
    | type d => exact congrArg (d.name.value :: ·) ih

mutual

theorem exists_body_of_inType {type type' : TypeClause} (h : x.InType type type') :
    ∃ body ∈ type'.bodies, x.newField ∈ body := by
  cases h with
  | inline within => exact exists_body_of_inFields within
  | array within =>
    obtain ⟨body, hbody, hfield⟩ := exists_body_of_inType within
    exact ⟨body, hbody, hfield⟩

theorem exists_body_of_inFields {fields fields' : List Field} (h : x.InFields fields fields') :
    ∃ body ∈ fields' :: bodiesWithin fields', x.newField ∈ body := by
  cases h with
  | here rest => exact ⟨_, List.mem_cons_self, List.mem_cons_self⟩
  | inside within =>
    obtain ⟨body, hbody, hfield⟩ := exists_body_of_inType within
    exact ⟨body, List.mem_cons_of_mem _ (List.mem_append_left _ hbody), hfield⟩
  | later field others =>
    obtain ⟨body, hbody, hfield⟩ := exists_body_of_inFields others
    rcases List.mem_cons.1 hbody with rfl | hinner
    · exact ⟨_, List.mem_cons_self, List.mem_cons_of_mem _ hfield⟩
    · exact ⟨body, List.mem_cons_of_mem _ (List.mem_append_right _ hinner), hfield⟩

end

theorem exists_body_of_inItems (h : x.InItems items items') :
    ∃ body ∈ allBodies items', x.newField ∈ body := by
  induction h with
  | here within =>
    obtain ⟨body, hbody, hfield⟩ := exists_body_of_inFields within
    exact ⟨body, List.mem_append_left _ hbody, hfield⟩
  | @later item rest rest' within ih =>
    obtain ⟨body, hbody, hfield⟩ := ih
    cases item with
    | root name => exact ⟨body, hbody, hfield⟩
    | type d => exact ⟨body, List.mem_append_right _ hbody, hfield⟩

variable [PatternEngine]

theorem resolve_exchange (hold : (scopeOf s openByDefault).Plain x.old old)
    (hnew : (scopeOf s openByDefault).Plain x.new new) (h : x.InItems items items')
    (resolved : resolve origin openByDefault items = .ok s) :
    ∃ slot : Schema.Slot, slot.types.field.name = x.head.name.value ∧ s = slot.fill old ∧
      resolve origin openByDefault items' = .ok (slot.fill new) := by
  have hscope : scopeOf s openByDefault = ⟨typeNames items, openByDefault⟩ := by
    rw [scopeOf, resolve_typeNames resolved]
  rw [hscope] at hold hnew
  obtain ⟨types, inner, roots, rfl, hdeclared, hnames, hresolved, hroots⟩ := resolve_passes resolved
  obtain ⟨⟨types', inner'⟩, hresolved', refilled⟩ := Scope.resolveTypes_exchange hold hnew h hresolved
  obtain ⟨slot, named, htypes, htypes'⟩ := refilled.exists_slot
  refine ⟨⟨origin, slot, roots⟩, named, by rw [htypes]; rfl, ?_⟩
  have hlength : (typeNames items).length = types.length := by rw [← hnames, List.length_map]
  rw [← declaredNames_exchange h] at hdeclared
  rw [← hlength] at hresolved'
  rw [← designations_exchange h] at hroots
  refine bind_eq_ok_iff.2 ⟨_, hdeclared, bind_eq_ok_iff.2 ⟨_, hresolved', bind_eq_ok_iff.2 ⟨_, hroots, ?_⟩⟩⟩
  change Except.ok (Schema.mk origin (types' ++ inner') roots) = _
  rw [htypes']
  rfl

end Items

end Blueprint

end DocumentSchema
