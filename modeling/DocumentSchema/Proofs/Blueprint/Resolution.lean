import DocumentSchema.Proofs.Blueprint.Constraints
import DocumentSchema.Proofs.Blueprint.Words

namespace DocumentSchema.Blueprint

open DocumentSchema.Except (bind_eq_ok_iff mapError_eq_ok_iff)

section Defaults

variable {field : String} {type : FieldType}

theorem resolveDefault_eq_ok {literal : Located Literal} {v : Json.Value}
    (h : resolveDefault field type literal = .ok v) :
    v = literal.value.toValue ∧ ∃ scalar, type = .scalar scalar ∧ scalar.Admits v := by
  unfold resolveDefault at h
  split at h
  case h_1 scalar =>
    split at h
    case h_1 hadmits =>
      obtain rfl := Except.ok.inj h
      exact ⟨rfl, scalar, rfl, Scalar.scalarViolation?_eq_none_iff.1 hadmits⟩
    case h_2 => cases h
  case h_2 => cases h

theorem mapM_resolveDefault_eq_ok {default : Option (Located Literal)} {value : Option Json.Value}
    (h : default.mapM (resolveDefault field type) = .ok value) :
    value = default.map (·.value.toValue) ∧ ∀ literal, default = some literal →
      ∃ scalar, type = .scalar scalar ∧ scalar.Admits literal.value.toValue := by
  cases default with
  | none =>
    cases h
    simp
  | some literal =>
    obtain ⟨v, hv, h⟩ := bind_eq_ok_iff.1 h
    cases h
    obtain ⟨rfl, hscalar⟩ := resolveDefault_eq_ok hv
    refine ⟨rfl, fun literal' hliteral ↦ ?_⟩
    obtain rfl := Option.some.inj hliteral
    exact hscalar

end Defaults

namespace Scope

section Steps

variable {scope : Scope} {name : String} {next : Nat} {type : FieldType}
  {inner : List TypeDefinition}

variable [PatternEngine]

theorem resolveType_scalar_eq_ok {kind : ScalarKind} {clauses : List ConstraintClause}
    (h : scope.resolveType name next (.scalar kind clauses) = .ok (type, inner)) :
    ConstraintsFit kind clauses ∧ type = .scalar (statedScalar kind clauses) ∧ inner = [] := by
  rw [resolveType] at h
  obtain ⟨scalar, hscalar, h⟩ := bind_eq_ok_iff.1 h
  cases h
  obtain ⟨hfit, rfl⟩ := resolveScalar_eq_ok hscalar
  exact ⟨hfit, rfl, rfl⟩

theorem resolveType_named_eq_ok {named : Located String}
    (h : scope.resolveType name next (.named named) = .ok (type, inner)) :
    ∃ id, scope.names[id]? = some named.value ∧ type = .named id ∧ inner = [] := by
  rw [resolveType] at h
  split at h
  case h_2 => cases h
  case h_1 id hid =>
    cases h
    obtain ⟨hlt, hname, -⟩ := List.findIdx?_eq_some_iff_getElem.1 hid
    exact ⟨id, by rw [List.getElem?_eq_getElem hlt, eq_of_beq hname], rfl, rfl⟩

theorem resolveType_inline_eq_ok {openness : Option Openness} {fields : List Field}
    (h : scope.resolveType name next (.inline openness fields) = .ok (type, inner)) :
    ∃ definitions others, scope.resolveFields name (next + 1) [] fields = .ok (definitions, others) ∧
      type = .inline next ∧ inner = ⟨name, definitions, scope.isClosed openness, true⟩ :: others := by
  rw [resolveType] at h
  obtain ⟨⟨definitions, others⟩, hfields, h⟩ := bind_eq_ok_iff.1 h
  cases h
  exact ⟨definitions, others, hfields, rfl, rfl⟩

theorem resolveType_array_eq_ok {item : TypeClause}
    (h : scope.resolveType name next (.array item) = .ok (type, inner)) :
    ∃ itemType, scope.resolveType name next item = .ok (itemType, inner) ∧
      type = .array itemType := by
  rw [resolveType] at h
  obtain ⟨⟨itemType, others⟩, hitem, h⟩ := bind_eq_ok_iff.1 h
  cases h
  exact ⟨itemType, hitem, rfl⟩

variable {owner : String} {seen : List String} {definitions : List FieldDefinition}

theorem resolveFields_nil_eq_ok
    (h : scope.resolveFields owner next seen [] = .ok (definitions, inner)) :
    definitions = [] ∧ inner = [] := by
  rw [resolveFields] at h
  cases h
  exact ⟨rfl, rfl⟩

theorem resolveFields_cons_eq_ok {name : Located String} {isOptional : Bool} {clause : TypeClause}
    {default : Option (Located Literal)} {rest : List Field}
    (h : scope.resolveFields owner next seen (⟨name, isOptional, clause, default⟩ :: rest) =
      .ok (definitions, inner)) :
    name.value ∉ seen ∧ ∃ type own others more,
      scope.resolveType s!"{owner}.{name.value}" next clause = .ok (type, own) ∧
      (∀ literal, default = some literal →
        ∃ scalar, type = .scalar scalar ∧ scalar.Admits literal.value.toValue) ∧
      scope.resolveFields owner (next + own.length) (name.value :: seen) rest = .ok (others, more) ∧
      definitions = ⟨name.value, type, !isOptional && default.isNone,
        default.map (·.value.toValue)⟩ :: others ∧
      inner = own ++ more := by
  rw [resolveFields] at h
  split at h
  case isTrue => cases h
  case isFalse unseen =>
    obtain ⟨⟨type, own⟩, htype, h⟩ := bind_eq_ok_iff.1 h
    obtain ⟨value, hdefault, h⟩ := bind_eq_ok_iff.1 h
    obtain ⟨⟨others, more⟩, hrest, h⟩ := bind_eq_ok_iff.1 h
    cases h
    obtain ⟨rfl, hadmits⟩ := mapM_resolveDefault_eq_ok hdefault
    rw [List.contains_iff_mem] at unseen
    exact ⟨unseen, type, own, others, more, htype, hadmits, hrest, by rw [Option.isNone_map], rfl⟩

theorem resolveFields_names {fields : List Field}
    (h : scope.resolveFields owner next seen fields = .ok (definitions, inner)) :
    definitions.map (·.name) = fields.map (·.name.value) ∧
      (∀ f ∈ fields, f.name.value ∉ seen) ∧ (fields.map (·.name.value)).Nodup := by
  induction fields generalizing next seen definitions inner with
  | nil =>
    obtain ⟨rfl, -⟩ := resolveFields_nil_eq_ok h
    simp
  | cons field rest ih =>
    obtain ⟨name, isOptional, clause, default⟩ := field
    obtain ⟨unseen, type, own, others, more, -, -, hrest, rfl, -⟩ := resolveFields_cons_eq_ok h
    obtain ⟨hnames, hfresh, hdistinct⟩ := ih hrest
    refine ⟨by rw [List.map_cons, List.map_cons, hnames], List.forall_mem_cons.2 ⟨unseen, ?_⟩, ?_⟩
    · exact fun f hf hseen ↦ hfresh f hf (List.mem_cons_of_mem _ hseen)
    · refine List.nodup_cons.2 ⟨fun hmem ↦ ?_, hdistinct⟩
      obtain ⟨f, hf, hsame⟩ := List.mem_map.1 hmem
      refine hfresh f hf ?_
      rw [hsame]
      exact List.mem_cons_self

theorem resolveTypes_cons_eq_ok {d : TypeDeclaration} {rest : List TypeDeclaration}
    {types : List TypeDefinition}
    (h : scope.resolveTypes next (d :: rest) = .ok (types, inner)) :
    ∃ fields own others more,
      scope.resolveFields d.name.value next [] d.fields = .ok (fields, own) ∧
      scope.resolveTypes (next + own.length) rest = .ok (others, more) ∧
      types = ⟨d.name.value, fields, scope.isClosed d.openness, false⟩ :: others ∧
      inner = own ++ more := by
  obtain ⟨⟨fields, own⟩, hfields, h⟩ := bind_eq_ok_iff.1 h
  obtain ⟨⟨others, more⟩, hrest, h⟩ := bind_eq_ok_iff.1 h
  cases h
  exact ⟨fields, own, others, more, hfields, hrest, rfl, rfl⟩

end Steps

end Scope

theorem declaredNames_eq_ok {seen names : List String} {declarations : List TypeDeclaration}
    (h : declaredNames seen declarations = .ok names) :
    names = seen ++ declarations.map (·.name.value) ∧ (seen.Nodup → names.Nodup) := by
  induction declarations generalizing seen with
  | nil =>
    cases h
    simp
  | cons declaration rest ih =>
    rw [declaredNames] at h
    split at h
    · cases h
    split at h
    · cases h
    rename_i unseen
    rw [List.contains_iff_mem] at unseen
    obtain ⟨rfl, hnodup⟩ := ih h
    refine ⟨by simp, fun hseen ↦ hnodup ?_⟩
    refine List.nodup_append.2 ⟨hseen, by simp, fun name hname other hother ↦ ?_⟩
    rintro rfl
    exact unseen (List.mem_singleton.1 hother ▸ hname)

theorem resolveRoots_named {names : List String} {found all : List (String × Nat)}
    {roots : List (Located String)} (h : resolveRoots names found roots = .ok all)
    (hfound : ∀ r ∈ found, names[r.2]? = some r.1) : ∀ r ∈ all, names[r.2]? = some r.1 := by
  induction roots generalizing found with
  | nil =>
    cases h
    exact hfound
  | cons root rest ih =>
    rw [resolveRoots] at h
    split at h
    · cases h
    rename_i id hid
    split at h
    · cases h
    refine ih h fun r hr ↦ ?_
    rcases List.mem_append.1 hr with hr | hr
    · exact hfound r hr
    · obtain rfl := List.mem_singleton.1 hr
      obtain ⟨hlt, hname, -⟩ := List.findIdx?_eq_some_iff_getElem.1 hid
      rw [List.getElem?_eq_getElem hlt, eq_of_beq hname]

theorem typeNames_append {origin : String} {types inner : List TypeDefinition}
    {roots : List (String × Nat)} (htypes : ∀ d ∈ types, d.anonymous = false)
    (hinner : ∀ d ∈ inner, d.anonymous = true) :
    (Schema.mk origin (types ++ inner) roots).typeNames = types.map (·.name) := by
  have hkept : types.filter (!·.anonymous) = types := by
    rw [List.filter_eq_self]
    intro d hd
    rw [htypes d hd]
    rfl
  have hdropped : inner.filter (!·.anonymous) = [] := by
    rw [List.filter_eq_nil_iff]
    intro d hd
    rw [hinner d hd]
    simp
  rw [Schema.typeNames, List.filter_append, hkept, hdropped, List.append_nil]

theorem declaredNames_eq_typeNames {names : List String} {items : List Item}
    (h : declaredNames [] (declarations items) = .ok names) : names = typeNames items :=
  (declaredNames_eq_ok h).1

variable [PatternEngine]

/-- Types written in place that take the places from `next` on. -/
def Placed (declared high next : Nat) (inner : List TypeDefinition) : Prop :=
  ∀ (k : Nat) (d : TypeDefinition), inner[k]? = some d →
    d.anonymous = true ∧ d.WellFormed declared (next + k + 1) high

section Placed

variable {declared high high' next : Nat} {inner others : List TypeDefinition}

theorem placed_nil : Placed declared high next [] := by simp [Placed]

theorem Placed.mono (h : Placed declared high next inner) (hhigh : high ≤ high') :
    Placed declared high' next inner := by
  intro k d hd
  obtain ⟨hanonymous, hd⟩ := h k d hd
  exact ⟨hanonymous, hd.mono (Nat.le_refl _) hhigh⟩

theorem Placed.append (h : Placed declared high next inner)
    (h' : Placed declared high (next + inner.length) others) :
    Placed declared high next (inner ++ others) := by
  intro k d hd
  by_cases hk : k < inner.length
  · rw [List.getElem?_append_left hk] at hd
    exact h k d hd
  · have hle : inner.length ≤ k := Nat.le_of_not_lt hk
    rw [List.getElem?_append_right hle] at hd
    have hplace : next + inner.length + (k - inner.length) = next + k := by omega
    rw [← hplace]
    exact h' _ d hd

theorem placed_singleton {d : TypeDefinition} (hanonymous : d.anonymous = true)
    (hd : d.WellFormed declared (next + 1) high) : Placed declared high next [d] := by
  intro k d' hd'
  cases k with
  | zero =>
    obtain rfl := Option.some.inj hd'
    exact ⟨hanonymous, hd⟩
  | succ k => cases hd'

theorem Placed.anonymous (h : Placed declared high next inner) : ∀ d ∈ inner, d.anonymous = true := by
  intro d hd
  obtain ⟨k, hk⟩ := List.mem_iff_getElem?.1 hd
  exact (h k d hk).1

end Placed

namespace Scope

variable {scope : Scope}

mutual

theorem resolveType_wellFormed {name : String} {next : Nat} {type : FieldType}
    {inner : List TypeDefinition} (clause : TypeClause)
    (h : resolveType scope name next clause = .ok (type, inner)) :
    type.Within scope.names.length next (next + inner.length) ∧
      Placed scope.names.length (next + inner.length) next inner := by
  cases clause with
  | scalar kind clauses =>
    obtain ⟨hfit, rfl, rfl⟩ := resolveType_scalar_eq_ok h
    exact ⟨statedScalar_wellFormed hfit, placed_nil⟩
  | named name =>
    obtain ⟨id, hid, rfl, rfl⟩ := resolveType_named_eq_ok h
    exact ⟨(List.getElem?_eq_some_iff.1 hid).1, placed_nil⟩
  | inline openness fields =>
    obtain ⟨definitions, others, hfields, rfl, rfl⟩ := resolveType_inline_eq_ok h
    obtain ⟨hnames, -, hnodup⟩ := resolveFields_names hfields
    obtain ⟨hdefinitions, hothers⟩ := resolveFields_wellFormed fields hfields
    have hhigh : next + 1 + others.length = next + (others.length + 1) := by omega
    rw [hhigh] at hdefinitions hothers
    rw [← hnames] at hnodup
    exact ⟨⟨Nat.le_refl _, Nat.lt_add_of_pos_right (Nat.succ_pos _)⟩,
      (placed_singleton rfl ⟨hnodup, hdefinitions⟩).append hothers⟩
  | array item =>
    obtain ⟨itemType, hitem, rfl⟩ := resolveType_array_eq_ok h
    have hspec := resolveType_wellFormed item hitem
    exact hspec

theorem resolveFields_wellFormed {owner : String} {next : Nat} {seen : List String}
    {definitions : List FieldDefinition} {inner : List TypeDefinition} (fields : List Field)
    (h : resolveFields scope owner next seen fields = .ok (definitions, inner)) :
    (∀ f ∈ definitions, f.WellFormed scope.names.length next (next + inner.length)) ∧
      Placed scope.names.length (next + inner.length) next inner := by
  cases fields with
  | nil =>
    obtain ⟨rfl, rfl⟩ := resolveFields_nil_eq_ok h
    simp [placed_nil]
  | cons field rest =>
    obtain ⟨name, isOptional, clause, default⟩ := field
    obtain ⟨-, type, own, others, more, htype, hadmits, hrest, rfl, rfl⟩ :=
      resolveFields_cons_eq_ok h
    obtain ⟨hwithin, hown⟩ := resolveType_wellFormed clause htype
    obtain ⟨hothers, hmore⟩ := resolveFields_wellFormed rest hrest
    rw [List.length_append, ← Nat.add_assoc]
    have hown_le : next + own.length ≤ next + own.length + more.length := Nat.le_add_right _ _
    refine ⟨List.forall_mem_cons.2 ⟨⟨hwithin.mono (Nat.le_refl _) hown_le, fun v hv ↦ ?_⟩,
      fun f hf ↦ ?_⟩, (hown.mono hown_le).append hmore⟩
    · obtain ⟨literal, hliteral, rfl⟩ := Option.map_eq_some_iff.1 hv
      exact ⟨by simp [hliteral], hadmits literal hliteral⟩
    · obtain ⟨hftype, hfdefault⟩ := hothers f hf
      exact ⟨hftype.mono (Nat.le_add_right _ _) (Nat.le_refl _), hfdefault⟩

end

theorem resolveTypes_wellFormed {next : Nat} {declarations : List TypeDeclaration}
    {types inner : List TypeDefinition}
    (h : resolveTypes scope next declarations = .ok (types, inner)) :
    types.map (·.name) = declarations.map (·.name.value) ∧
      (∀ d ∈ types, d.anonymous = false ∧
        d.WellFormed scope.names.length next (next + inner.length)) ∧
      Placed scope.names.length (next + inner.length) next inner := by
  induction declarations generalizing next types inner with
  | nil =>
    cases h
    simp [placed_nil]
  | cons declaration rest ih =>
    obtain ⟨fields, own, others, more, hfields, hrest, rfl, rfl⟩ := resolveTypes_cons_eq_ok h
    obtain ⟨hfieldNames, -, hnodup⟩ := resolveFields_names hfields
    obtain ⟨hdefinitions, hown⟩ := resolveFields_wellFormed declaration.fields hfields
    obtain ⟨hnames, hothers, hmore⟩ := ih hrest
    rw [List.length_append, ← Nat.add_assoc]
    have hown_le : next + own.length ≤ next + own.length + more.length := Nat.le_add_right _ _
    refine ⟨by rw [List.map_cons, List.map_cons, hnames], ?_, (hown.mono hown_le).append hmore⟩
    refine List.forall_mem_cons.2 ⟨⟨rfl, ?_⟩, fun d hd ↦ ?_⟩
    · have hd : TypeDefinition.WellFormed _ next (next + own.length)
          ⟨declaration.name.value, fields, scope.isClosed declaration.openness, false⟩ :=
        ⟨hfieldNames ▸ hnodup, hdefinitions⟩
      exact hd.mono (Nat.le_refl _) hown_le
    · obtain ⟨hanonymous, hd⟩ := hothers d hd
      exact ⟨hanonymous, hd.mono (Nat.le_add_right _ _) (Nat.le_refl _)⟩

end Scope

theorem wellFormed_append {origin : String} {types inner : List TypeDefinition}
    {roots : List (String × Nat)} (hnodup : (types.map (·.name)).Nodup)
    (htypes : ∀ d ∈ types, d.anonymous = false ∧
      d.WellFormed types.length types.length (types.length + inner.length))
    (hinner : Placed types.length (types.length + inner.length) types.length inner)
    (hroots : ∀ r ∈ roots, (types.map (·.name))[r.2]? = some r.1) :
    (Schema.mk origin (types ++ inner) roots).WellFormed := by
  have hnames : (Schema.mk origin (types ++ inner) roots).typeNames = types.map (·.name) :=
    typeNames_append (fun d hd ↦ (htypes d hd).1) hinner.anonymous
  have hlater {id : Nat} {d : TypeDefinition} (hd : (types ++ inner)[id]? = some d)
      (hle : types.length ≤ id) : d.anonymous = true ∧
        d.WellFormed types.length (id + 1) (types.length + inner.length) := by
    rw [List.getElem?_append_right hle] at hd
    have hplace : types.length + (id - types.length) = id := by omega
    simpa [hplace] using hinner _ d hd
  constructor
  case names_nodup => rwa [hnames]
  case declared =>
    intro id name hname
    rw [hnames, List.getElem?_map, Option.map_eq_some_iff] at hname
    obtain ⟨d, hd, rfl⟩ := hname
    have hlt : id < types.length := (List.getElem?_eq_some_iff.1 hd).1
    exact ⟨d, by rwa [List.getElem?_append_left hlt], rfl, (htypes d (List.mem_of_getElem? hd)).1⟩
  case inPlace =>
    intro id d hd hle
    rw [hnames, List.length_map] at hle
    exact (hlater hd hle).1
  case types =>
    intro id d hd
    rw [hnames, List.length_map, List.length_append]
    by_cases hlt : id < types.length
    · rw [List.getElem?_append_left hlt] at hd
      rw [Nat.max_eq_left hlt]
      exact (htypes d (List.mem_of_getElem? hd)).2
    · have hle : types.length ≤ id := Nat.le_of_not_lt hlt
      rw [Nat.max_eq_right (Nat.le_succ_of_le hle)]
      exact (hlater hd hle).2
  case roots =>
    intro name id hr
    rw [hnames]
    exact hroots (name, id) hr

section Passes

variable {origin : String} {openByDefault : Bool} {items : List Item} {s : Schema}

theorem resolve_passes (h : resolve origin openByDefault items = .ok s) :
    ∃ types inner roots, s = ⟨origin, types ++ inner, roots⟩ ∧
      declaredNames [] (declarations items) = .ok (typeNames items) ∧
      types.map (·.name) = typeNames items ∧
      Scope.resolveTypes ⟨typeNames items, openByDefault⟩ types.length (declarations items) =
        .ok (types, inner) ∧
      resolveRoots (typeNames items) [] (designations items) = .ok roots := by
  obtain ⟨names, hdeclared, h⟩ := bind_eq_ok_iff.1 h
  obtain ⟨⟨types, inner⟩, hresolved, h⟩ := bind_eq_ok_iff.1 h
  obtain ⟨roots, hroots, h⟩ := bind_eq_ok_iff.1 h
  cases h
  obtain rfl := declaredNames_eq_typeNames hdeclared
  have hnames : types.map (·.name) = typeNames items := (Scope.resolveTypes_wellFormed hresolved).1
  rw [← hnames, List.length_map, hnames] at hresolved
  exact ⟨types, inner, roots, rfl, hdeclared, hnames, hresolved, hroots⟩

theorem resolve_typeNames (h : resolve origin openByDefault items = .ok s) :
    s.typeNames = typeNames items := by
  obtain ⟨types, inner, roots, rfl, -, hnames, hresolved, -⟩ := resolve_passes h
  obtain ⟨-, htypes, hinner⟩ := Scope.resolveTypes_wellFormed hresolved
  rw [typeNames_append (fun d hd ↦ (htypes d hd).1) hinner.anonymous, hnames]

theorem resolve_wellFormed (h : resolve origin openByDefault items = .ok s) : s.WellFormed := by
  obtain ⟨types, inner, roots, rfl, hdeclared, hnames, hresolved, hroots⟩ := resolve_passes h
  have hnodup : (typeNames items).Nodup := (declaredNames_eq_ok hdeclared).2 List.nodup_nil
  have hlength : (typeNames items).length = types.length := by rw [← hnames, List.length_map]
  obtain ⟨-, htypes, hinner⟩ := Scope.resolveTypes_wellFormed hresolved
  simp only [hlength] at htypes hinner
  have hnamed := resolveRoots_named hroots (by simp)
  rw [← hnames] at hnodup hnamed
  exact wellFormed_append hnodup htypes hinner hnamed

end Passes

section Compile

variable {openByDefault : Bool} {source : Source} {s : Schema}

theorem compile_eq_ok (h : compile openByDefault source = .ok s) :
    ∃ items, itemsOf source.text = .ok items ∧ resolve source.origin openByDefault items = .ok s := by
  rw [compile, mapError_eq_ok_iff] at h
  exact bind_eq_ok_iff.1 h

theorem compile_wellFormed (h : compile openByDefault source = .ok s) : s.WellFormed := by
  obtain ⟨items, -, h⟩ := compile_eq_ok h
  exact resolve_wellFormed h

theorem isWord_of_mem_typeNames (h : compile openByDefault source = .ok s) :
    ∀ name ∈ s.typeNames, IsWord name := by
  obtain ⟨items, hitems, h⟩ := compile_eq_ok h
  rw [resolve_typeNames h]
  intro name hname
  obtain ⟨declaration, hdeclaration, rfl⟩ := List.mem_map.1 hname
  exact itemsOf_named hitems _ (mem_declarations_iff.1 hdeclaration)

end Compile

/-- A blueprint with a type that contains itself, one written in place, a bound and a default. -/
def partsBlueprint : Source where
  origin := "parts"
  text := "root Part \x7bsize: integer(min = 1), parts: Part[], at: \x7bx: number\x7d, " ++
    "color: string = \"red\"\x7d"

def partsSchema : Schema where
  origin := "parts"
  types := [
    ⟨"Part", [
      ⟨"size", .scalar ⟨.integer, { Constraints.none with minimum := some (.integer 1 (by decide)) }⟩,
        true, none⟩,
      ⟨"parts", .array (.named 0), true, none⟩,
      ⟨"at", .inline 1, true, none⟩,
      ⟨"color", .scalar ⟨.string, .none⟩, false, some (.string "red")⟩], true, false⟩,
    ⟨"Part.at", [⟨"x", .scalar ⟨.number, .none⟩, true, none⟩], true, true⟩]
  roots := [("Part", 0)]

theorem compile_partsBlueprint : compile false partsBlueprint = .ok partsSchema := by rfl

/-- A part without a color, with its members in an order of its own. -/
def plainPart : Json.Value :=
  .object [
    ("at", .object [("x", .number (.integer 3 (by decide)))]),
    ("parts", .array []),
    ("size", .number (.integer 2 (by decide)))]

def plainPartInFull : Json.Value :=
  .object [
    ("size", .number (.integer 2 (by decide))),
    ("parts", .array []),
    ("at", .object [("x", .number (.integer 3 (by decide)))]),
    ("color", .string "red")]

/-- A part that is too small, with an incomplete one inside, at a place with an unknown coordinate. -/
def faultyPart : Json.Value :=
  .object [
    ("size", .number (.integer 0 (by decide))),
    ("parts", .array [.object [("size", .number (.integer 1 (by decide)))]]),
    ("at", .object [("y", .number (.integer 2 (by decide)))])]

end DocumentSchema.Blueprint
