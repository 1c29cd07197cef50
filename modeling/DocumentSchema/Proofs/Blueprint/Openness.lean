import DocumentSchema.Pattern.Engine
import DocumentSchema.Proofs.Blueprint.Independence
import DocumentSchema.Proofs.Schema.Openness
import DocumentSchema.Proofs.Validation.Report

namespace DocumentSchema.Blueprint

open DocumentSchema.Except (Alike)
open Json (Value)
open Validation

section Resolution

variable {names : List String} {o o' : Bool}

/-- Parts of two schemas that are the same, with types made for them that differ in openness only. -/
def SameReopened {α : Type} (r r' : α × List TypeDefinition) : Prop :=
  r.1 = r'.1 ∧ List.Forall₂ TypeDefinition.Reopened r.2 r'.2

namespace Scope

variable [PatternEngine]

mutual

theorem resolveType_alike (name : String) (next : Nat) (clause : TypeClause) :
    Alike SameReopened (resolveType ⟨names, o⟩ name next clause)
      (resolveType ⟨names, o'⟩ name next clause) := by
  cases clause with
  | scalar kind clauses =>
    rw [resolveType, resolveType]
    refine (Alike.refl _).bind fun scalar _ hscalar ↦ ?_
    subst hscalar
    exact .ok ⟨rfl, .nil⟩
  | named type =>
    rw [resolveType, resolveType]
    cases names.idxOf? type.value with
    | some id => exact .ok ⟨rfl, .nil⟩
    | none => exact .error _
  | inline openness fields =>
    rw [resolveType, resolveType]
    refine (resolveFields_alike name (next + 1) [] fields).bind fun _ _ ⟨hfields, hinner⟩ ↦ ?_
    exact .ok ⟨rfl, .cons ⟨rfl, hfields, rfl⟩ hinner⟩
  | array item =>
    rw [resolveType, resolveType]
    refine (resolveType_alike name next item).bind fun _ _ ⟨hitem, hinner⟩ ↦ ?_
    exact .ok ⟨congrArg FieldType.array hitem, hinner⟩

theorem resolveFields_alike (owner : String) (next : Nat) (seen : List String)
    (fields : List Field) : Alike SameReopened (resolveFields ⟨names, o⟩ owner next seen fields)
      (resolveFields ⟨names, o'⟩ owner next seen fields) := by
  cases fields with
  | nil =>
    rw [resolveFields, resolveFields]
    exact .ok ⟨rfl, .nil⟩
  | cons field rest =>
    obtain ⟨name, isOptional, clause, literal⟩ := field
    rw [resolveFields, resolveFields]
    split
    case isTrue => exact .error _
    case isFalse =>
      refine (resolveType_alike _ next clause).bind fun (type, own) (_, own') ⟨htype, hown⟩ ↦ ?_
      subst htype
      refine (Alike.refl _).bind fun default _ hdefault ↦ ?_
      subst hdefault
      rw [← hown.length_eq]
      refine (resolveFields_alike owner _ _ rest).bind fun _ _ ⟨hothers, hmore⟩ ↦ ?_
      exact .ok ⟨congrArg (_ :: ·) hothers, List.rel_append hown hmore⟩

end

theorem resolveTypes_alike (next : Nat) (ds : List TypeDeclaration) :
    Alike (fun r r' ↦ List.Forall₂ TypeDefinition.Reopened r.1 r'.1 ∧
        List.Forall₂ TypeDefinition.Reopened r.2 r'.2)
      (resolveTypes ⟨names, o⟩ next ds) (resolveTypes ⟨names, o'⟩ next ds) := by
  induction ds generalizing next with
  | nil =>
    rw [resolveTypes, resolveTypes]
    exact .ok ⟨.nil, .nil⟩
  | cons d rest ih =>
    rw [resolveTypes, resolveTypes]
    refine (resolveFields_alike d.name.value next [] d.fields).bind ?_
    rintro ⟨fields, own⟩ ⟨_, own'⟩ ⟨hfields, hown⟩
    dsimp only at hown ⊢
    rw [← hown.length_eq]
    refine (ih (next + own.length)).bind ?_
    rintro _ _ ⟨htypes, hothers⟩
    exact .ok ⟨.cons ⟨rfl, hfields, rfl⟩ htypes, List.rel_append hown hothers⟩

end Scope

variable [PatternEngine]

theorem resolve_alike (origin : String) (items : List Item) :
    Alike Schema.Reopened (resolve origin o items) (resolve origin o' items) := by
  unfold resolve
  refine (Alike.refl _).bind fun names _ hnames ↦ ?_
  subst hnames
  refine (Scope.resolveTypes_alike _ _).bind fun _ _ ⟨htypes, hinner⟩ ↦ ?_
  refine (Alike.refl _).bind fun roots _ hroots ↦ ?_
  exact .ok ⟨rfl, List.rel_append htypes hinner, hroots⟩

end Resolution

section Paths

/-- What an object type says about openness, and its fields. A name stands for the type declared under
it. -/
def body? (items : List Item) : TypeClause → Option (Option Openness × List Field)
  | .named name =>
    ((declarations items).find? (·.name.value = name.value)).map fun d ↦ (d.openness, d.fields)
  | .inline openness fields => some (openness, fields)
  | .scalar _ _ | .array _ => none

def clauseAt? (items : List Item) : TypeClause → Path → Option TypeClause
  | type, [] => some type
  | .array item, .index _ :: rest => clauseAt? items item rest
  | _, .index _ :: _ => none
  | type, .field key :: rest =>
    (body? items type).bind fun body ↦
      (body.2.find? (·.name.value = key)).bind fun f ↦ clauseAt? items f.type rest

/-- Is a member unknown to an object whose type does not say whether it is open? -/
def isUpToDefault (items : List Item) (type : TypeClause) (f : Finding) : Bool :=
  f.violation = .unknownField &&
    ((clauseAt? items type f.path.dropLast).bind (body? items)).any (·.1.isNone)

variable {items : List Item} {type : TypeClause} {f : Finding}

theorem isUpToDefault_of_known (h : f.violation ≠ .unknownField) :
    isUpToDefault items type f = false := by
  simp [isUpToDefault, h]

theorem isUpToDefault_index (i : Nat) (item : TypeClause) (hpath : f.path ≠ []) :
    isUpToDefault items (.array item) (f.under [.index i]) = isUpToDefault items item f := by
  have hdrop : (f.under [.index i]).path.dropLast = .index i :: f.path.dropLast :=
    List.dropLast_cons_of_ne_nil hpath
  rw [isUpToDefault, hdrop, clauseAt?]
  rfl

theorem isUpToDefault_field {openness : Option Openness} {fields : List Field} {field : Field}
    (hbody : body? items type = some (openness, fields))
    (hfield : fields.find? (·.name.value = field.name.value) = some field) (hpath : f.path ≠ []) :
    isUpToDefault items type (f.under [.field field.name.value]) =
      isUpToDefault items field.type f := by
  have hdrop : (f.under [.field field.name.value]).path.dropLast =
      .field field.name.value :: f.path.dropLast := List.dropLast_cons_of_ne_nil hpath
  rw [isUpToDefault, hdrop, clauseAt?, hbody, Option.bind_some, hfield]
  rfl

theorem isUpToDefault_key {openness : Option Openness} {fields : List Field}
    (hbody : body? items type = some (openness, fields)) (key : String) :
    isUpToDefault items type ⟨[.field key], .unknownField⟩ = openness.isNone := by
  simp [isUpToDefault, clauseAt?, hbody]

end Paths

section Findings

variable {items : List Item} {s t : Schema} {openByDefault : Bool} {clause : TypeClause}
  {type : FieldType}

theorem isUpToDefault_index_of_mem {v : Value} {f : Finding} {item : TypeClause}
    (h : f ∈ findings s v type) (i : Nat) :
    isUpToDefault items (.array item) (f.under [.index i]) = isUpToDefault items item f := by
  by_cases hunknown : f.violation = .unknownField
  · exact isUpToDefault_index i item (path_ne_nil_of_unknown h hunknown)
  · have hunder : (f.under [.index i]).violation ≠ .unknownField := hunknown
    rw [isUpToDefault_of_known hunder, isUpToDefault_of_known hunknown]

theorem isUpToDefault_field_of_mem {v : Value} {f : Finding} {openness : Option Openness}
    {fields : List Field} {field : Field} (hbody : body? items clause = some (openness, fields))
    (hfield : fields.find? (·.name.value = field.name.value) = some field)
    (h : f ∈ findings s v type) :
    isUpToDefault items clause (f.under [.field field.name.value]) =
      isUpToDefault items field.type f := by
  by_cases hunknown : f.violation = .unknownField
  · exact isUpToDefault_field hbody hfield (path_ne_nil_of_unknown h hunknown)
  · have hunder : (f.under [.field field.name.value]).violation ≠ .unknownField := hunknown
    rw [isUpToDefault_of_known hunder, isUpToDefault_of_known hunknown]

theorem body?_named (distinct : (typeNames items).Nodup) {d : TypeDeclaration}
    (hd : d ∈ declarations items) {name : Located String} (names : d.name.value = name.value) :
    body? items (.named name) = some (d.openness, d.fields) := by
  rw [body?, ← names, Json.find?_of_mem (fun d : TypeDeclaration ↦ d.name.value) distinct hd,
    Option.map_some]

section Object

variable {openness : Option Openness} {fields : List Field} {members : List (String × Value)}
  {d d' : TypeDefinition}

theorem refusedKeys_reopened (hbody : body? items clause = some (openness, fields))
    (reopened : d.Reopened d') (closed : d.closed = (scopeOf s true).isClosed openness)
    (closed' : d'.closed = (scopeOf t false).isClosed openness) (keys : List String) :
    ((refusedKeys d keys).map fun key ↦ (⟨[.field key], .unknownField⟩ : Finding)) =
      ((refusedKeys d' keys).map fun key ↦ ⟨[.field key], .unknownField⟩).filter
        (!isUpToDefault items clause ·) := by
  have hkept (key : String) := isUpToDefault_key hbody key
  cases openness with
  | none =>
    have hopen : d.closed = false := closed
    have hnone : refusedKeys d keys = [] := by
      rw [refusedKeys, hopen]
      rfl
    rw [hnone, eq_comm, List.map_nil, List.filter_eq_nil_iff]
    refine List.forall_mem_map.2 fun key _ ↦ ?_
    rw [hkept key]
    exact Bool.false_ne_true
  | some openness =>
    have hclosed : d.closed = d'.closed := by
      rw [closed, closed']
      cases openness <;> rfl
    have hsame : refusedKeys d keys = refusedKeys d' keys := by
      simp only [refusedKeys, TypeDefinition.field?, hclosed, reopened.fields]
    rw [hsame, eq_comm, List.filter_eq_self]
    refine List.forall_mem_map.2 fun key _ ↦ ?_
    rw [hkept key]
    rfl

theorem fieldFindings_reopened {f : FieldDefinition} {field : Field}
    (hbody : body? items clause = some (openness, fields)) (hname : f.name = field.name.value)
    (hfield : fields.find? (·.name.value = field.name.value) = some field)
    (same : ∀ v, members.lookup f.name = some v →
      findings s v f.type = (findings t v f.type).filter (!isUpToDefault items field.type ·)) :
    fieldFindings (members.map fun m ↦ (m.1, findings s m.2)) f =
      (fieldFindings (members.map fun m ↦ (m.1, findings t m.2)) f).filter
        (!isUpToDefault items clause ·) := by
  cases hlookup : members.lookup f.name with
  | some v =>
    rw [fieldFindings_of_present hlookup, fieldFindings_of_present hlookup, same v hlookup,
      List.filter_map]
    refine congrArg _ (List.filter_congr fun g hg ↦ ?_)
    rw [Function.comp_apply, hname, isUpToDefault_field_of_mem hbody hfield hg]
  | none =>
    rw [fieldFindings_of_absent hlookup, fieldFindings_of_absent hlookup, eq_comm,
      List.filter_eq_self]
    intro g hg
    have hmissing : g.violation ≠ .unknownField := by
      split at hg
      · rw [List.mem_singleton.1 hg]
        nofun
      · cases hg
    rw [isUpToDefault_of_known hmissing]
    rfl

end Object

variable [PatternEngine]

theorem RendersType.exists_body? (hs : s.WellFormed) (renders : Renders s openByDefault items)
    (h : RendersType s openByDefault clause type) {id : Nat} (isObject : type.objectId? = some id) :
    ∃ openness fields, body? items clause = some (openness, fields) ∧
      RendersBody s openByDefault openness fields (s.definition id) := by
  cases h with
  | scalar | array => cases isObject
  | inline lt anonymous closed rendered =>
    obtain rfl := Option.some.inj isObject
    exact ⟨_, _, rfl, closed, rendered⟩
  | @named name place declared =>
    obtain rfl := Option.some.inj isObject
    have hnodup : (typeNames items).Nodup := renders.typeNames ▸ hs.names_nodup
    rw [renders.typeNames, typeNames, List.getElem?_map, Option.map_eq_some_iff] at declared
    obtain ⟨d, hd, hname⟩ := declared
    exact ⟨d.openness, d.fields, body?_named hnodup (List.mem_of_getElem? hd) hname,
      (renders.types place d hd).2.2⟩

theorem findings_reopened (hs : s.WellFormed) (ht : t.WellFormed) (renders : Renders s true items)
    (renders' : Renders t false items) (reopened : s.Reopened t) (v : Value)
    (h : RendersType s true clause type) (h' : RendersType t false clause type) :
    findings s v type = (findings t v type).filter (!isUpToDefault items clause ·) := by
  induction v, type using typedInduction generalizing clause with
  | scalar v scalar =>
    rw [findings_scalar, findings_scalar, eq_comm, List.filter_eq_self]
    intro f hf
    rw [isUpToDefault_of_known]
    · rfl
    intro hunknown
    have hpath : f.path ≠ [] := path_ne_nil_of_unknown (s := s) (by rwa [findings_scalar]) hunknown
    obtain ⟨violation, -, rfl⟩ := List.mem_map.1 hf
    exact hpath rfl
  | wrongKind v type wrong =>
    rw [findings_of_kind s wrong, findings_of_kind t wrong, eq_comm, List.filter_eq_self]
    refine List.forall_mem_singleton.2 ?_
    have hkind : Violation.typeMismatch type.kind v.kind ≠ .unknownField := nofun
    rw [isUpToDefault_of_known hkind]
    rfl
  | array items item ih =>
    cases h with
    | array rendered =>
      cases h' with
      | array rendered' =>
        rw [findings_array, findings_array, arrayFindings, arrayFindings, List.filter_flatten]
        refine congrArg List.flatten (List.ext_getElem (by simp) fun i hi _ ↦ ?_)
        have hlt : i < items.length := by simpa using hi
        simp only [List.getElem_map, List.getElem_mapIdx]
        rw [ih items[i] (List.getElem_mem hlt) item rendered rendered', List.filter_map]
        refine congrArg _ (List.filter_congr fun g hg ↦ ?_)
        rw [Function.comp_apply, isUpToDefault_index_of_mem hg]
  | object members type id isObject ih =>
    obtain ⟨openness, fields, hbody, rendered⟩ := h.exists_body? hs renders isObject
    obtain ⟨_, _, hbody', rendered'⟩ := h'.exists_body? ht renders' isObject
    cases hbody.symm.trans hbody'
    have hd := reopened.definition id
    rw [findings_object s isObject, findings_object t isObject, objectFindings_eq, objectFindings_eq,
      List.filter_append, List.filter_flatMap, hd.fields,
      refusedKeys_reopened hbody hd rendered.closed rendered'.closed]
    refine congrArg (· ++ _) (List.flatMap_congr fun f hf ↦ ?_)
    obtain ⟨field, hfield, hname, htype⟩ := rendered.fields.exists_field (hd.fields ▸ hf)
    obtain ⟨field', hfield', hname', htype'⟩ := rendered'.fields.exists_field hf
    have hnodup : (fields.map (·.name.value)).Nodup := rendered.fields.names ▸ hs.fields_nodup id
    obtain rfl := List.inj_on_of_nodup_map hnodup hfield hfield' (hname.symm.trans hname')
    have hfind := Json.find?_of_mem (fun f : Field ↦ f.name.value) hnodup hfield
    refine fieldFindings_reopened hbody hname hfind fun v hv ↦ ?_
    exact ih _ (Json.mem_of_lookup hv) f.type htype htype'

end Findings

/-- A root where objects are open unless they say otherwise, and the same root where they are closed. -/
structure Opens (items : List Item) (name : String) (r r' : Root) : Prop where
  report : ∀ v, r.report v =
    (r'.report v).filter (!isUpToDefault items (.named ⟨name, .start⟩) ·)
  validate : ∀ v n, r'.validate v = .ok n → r.validate v = .ok n
  validateAll : ∀ v n, r'.validateAll v = .ok n → r.validateAll v = .ok n
  normal : ∀ v n, r.validate v = .ok n → r'.validate n = .ok n ∧ r'.validateAll n = .ok n

section Roots

variable {items : List Item} {s t : Schema} {name : String} {id : Nat}

variable [PatternEngine]

theorem opens_of_renders (hs : s.WellFormed) (ht : t.WellFormed) (renders : Renders s true items)
    (renders' : Renders t false items) (reopened : s.Reopened t) (hroot : (name, id) ∈ s.roots) :
    Opens items name ⟨s, name, id⟩ ⟨t, name, id⟩ := by
  have htype : RendersType s true (.named ⟨name, .start⟩) (.named id) :=
    .named (renders.roots _ hroot)
  have htype' : RendersType t false (.named ⟨name, .start⟩) (.named id) :=
    .named (renders'.roots _ (reopened.roots ▸ hroot))
  have hfindings (v : Value) : (Root.mk s name id).findings v = ((Root.mk t name id).findings v).filter
      (!isUpToDefault items (.named ⟨name, .start⟩) ·) :=
    findings_reopened hs ht renders renders' reopened v htype htype'
  have hnormal (v : Value) : (Root.mk s name id).normalForm v = (Root.mk t name id).normalForm v :=
    reopened.normalForm_eq v (.named id)
  have haccepted (v n : Value) (h : (Root.mk t name id).findings v = [] ∧
      (Root.mk t name id).normalForm v = n) : (Root.mk s name id).findings v = [] ∧
        (Root.mk s name id).normalForm v = n := by
    obtain ⟨hnone, rfl⟩ := h
    refine ⟨?_, hnormal v⟩
    rw [hfindings, hnone]
    rfl
  refine ⟨fun v ↦ ?report, fun v n h ↦ ?validate, fun v n h ↦ ?validateAll, fun v n h ↦ ?normal⟩
  case report =>
    rw [Root.report_eq_findings, Root.report_eq_findings]
    exact hfindings v
  case validate => exact Root.validate_eq_ok_iff.2 (haccepted v n (Root.validate_eq_ok_iff.1 h))
  case validateAll =>
    exact Root.validateAll_eq_ok_iff.2 (haccepted v n (Root.validateAll_eq_ok_iff.1 h))
  case normal =>
    obtain ⟨hnone, rfl⟩ := Root.validate_eq_ok_iff.1 h
    have hstable := normalForm_stable hs ((findings_eq_nil_iff v (.named id)).1 hnone)
    exact Root.validate_eq_ok_of_stable (r := ⟨t, name, id⟩)
      (hstable.reopened hs.fields_nodup reopened)

/-- Whether objects are open or closed by default, the same blueprints compile, and the others fail for
the same reason. Opening them takes from the report about a document the unknown members of those
objects whose types do not say whether they are open, and nothing else. Documents that were accepted
stay so with the same normal form, and what comes out is accepted with closed objects too. -/
theorem opening_drops_unknown_members_only (source : Source) :
    (∃ error, compile true source = .error error ∧ compile false source = .error error) ∨
    ∃ items s t, itemsOf source.text = .ok items ∧ compile true source = .ok s ∧
      compile false source = .ok t ∧ s.rootNames = t.rootNames ∧
      ∀ name ∈ s.rootNames, ∃ r r', s.root name = .ok r ∧ t.root name = .ok r' ∧
        Opens items name r r' := by
  cases hitems : itemsOf source.text with
  | error fault =>
    have hcompile (o : Bool) : compile o source = .error (.faulty source.origin fault) := by
      rw [compile, hitems]
      rfl
    exact .inl ⟨_, hcompile true, hcompile false⟩
  | ok items =>
    have hcompile (o : Bool) : compile o source =
        (resolve source.origin o items).mapError (.faulty source.origin) :=
      compile_eq_mapError hitems
    have halike : Alike Schema.Reopened (resolve source.origin true items)
        (resolve source.origin false items) := resolve_alike source.origin items
    generalize hresolved : resolve source.origin true items = opened at halike
    generalize hresolved' : resolve source.origin false items = closed at halike
    rw [hcompile true, hcompile false, hresolved, hresolved']
    cases halike with
    | error fault => exact .inl ⟨_, rfl, rfl⟩
    | @ok s t reopened =>
      refine .inr ⟨items, s, t, rfl, rfl, rfl, reopened.rootNames_eq, fun name hname ↦ ?_⟩
      obtain ⟨id, hid, hroot⟩ := Schema.exists_rootId hname
      have hid' : t.rootId name = .ok id := (reopened.rootId_eq name).symm.trans hid
      refine ⟨⟨s, name, id⟩, ⟨t, name, id⟩, ?_, ?_, ?_⟩
      · rw [Schema.root, hid]
        rfl
      · rw [Schema.root, hid']
        rfl
      · exact opens_of_renders (resolve_wellFormed hresolved) (resolve_wellFormed hresolved')
          (resolve_renders hresolved) (resolve_renders hresolved') reopened hroot

end Roots

def boxBlueprint : Source where
  origin := "box"
  text := "closed root Box \x7bsize: number, lid: \x7bx: number\x7d\x7d"

def boxSchema (openByDefault : Bool) : Schema where
  origin := "box"
  types := [
    ⟨"Box", [
      ⟨"size", .scalar ⟨.number, .none⟩, true, none⟩,
      ⟨"lid", .inline 1, true, none⟩], true, false⟩,
    ⟨"Box.lid", [⟨"x", .scalar ⟨.number, .none⟩, true, none⟩], !openByDefault, true⟩]
  roots := [("Box", 0)]

theorem compile_boxBlueprint [PatternEngine] (openByDefault : Bool) :
    compile openByDefault boxBlueprint = .ok (boxSchema openByDefault) := by
  cases openByDefault <;> rfl

theorem one_inRange : -0x8000000000000000 ≤ (1 : Int) ∧ (1 : Int) < 0x10000000000000000 := by
  decide

def looseBox : Json.Value :=
  .object [
    ("size", .number (.integer 1 one_inRange)),
    ("lid", .object [("x", .number (.integer 1 one_inRange)), ("y", .null)]),
    ("z", .null)]

theorem opening_drops_unknown_member_of_lid :
    (Root.mk (boxSchema false) "Box" 0).report looseBox = [
      ⟨[.field "lid", .field "y"], .unknownField⟩, ⟨[.field "z"], .unknownField⟩] ∧
    (Root.mk (boxSchema true) "Box" 0).report looseBox = [⟨[.field "z"], .unknownField⟩] ∧
    ∃ items, itemsOf boxBlueprint.text = .ok items ∧
      Opens items "Box" ⟨boxSchema true, "Box", 0⟩ ⟨boxSchema false, "Box", 0⟩ := by
  refine ⟨by rfl, by rfl, ?_⟩
  have hopen := compile_boxBlueprint true
  have hclosed := compile_boxBlueprint false
  rcases opening_drops_unknown_members_only boxBlueprint with ⟨error, herror, -⟩ | h
  · rw [hopen] at herror
    cases herror
  · obtain ⟨items, s, t, hitems, hs, ht, -, hroots⟩ := h
    obtain rfl := Except.ok.inj (hopen.symm.trans hs)
    obtain rfl := Except.ok.inj (hclosed.symm.trans ht)
    obtain ⟨r, r', hr, hr', hopens⟩ := hroots "Box" (List.mem_singleton_self _)
    obtain rfl := Except.ok.inj hr
    obtain rfl := Except.ok.inj hr'
    exact ⟨items, hitems, hopens⟩

end DocumentSchema.Blueprint
