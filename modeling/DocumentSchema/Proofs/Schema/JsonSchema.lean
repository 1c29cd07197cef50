import DocumentSchema.Pattern.Engine
import DocumentSchema.Proofs.Blueprint.Resolution
import DocumentSchema.Proofs.Json.Members
import DocumentSchema.Proofs.Json.Pointer
import DocumentSchema.Proofs.Schema.Meaning
import DocumentSchema.Proofs.Schema.Reachable
import DocumentSchema.Proofs.Validation.Acceptance
import DocumentSchema.Schema.JsonSchema

namespace DocumentSchema

open Json (Number Value)
open JsonSchema
open Validation (Conforms)

theorem length?_ofNat {m : Nat} (h : m < 0x10000000000000000) :
    length? (.number (.ofNat m)) = some m := by
  simp [length?, Number.ofNat, Number.ofNat?, h, Number.toNat?, Number.toInt?]

section Scalars

theorem lookup_keyword {α : Type} (o : Option α) (name key : String) (f : α → Value) :
    (o.toList.map fun a ↦ (name, f a)).lookup key = if key = name then o.map f else none := by
  cases o with
  | none => simp
  | some a =>
    rw [Option.toList_some, List.map_singleton, Json.lookup_cons_ite]
    rfl

theorem lookup_keywords (c : Constraints) (key : String) : c.keywords.lookup key =
    if key = "minimum" then c.minimum.map .number
    else if key = "maximum" then c.maximum.map .number
    else if key = "minLength" then c.minLength.map (.number ∘ .ofNat)
    else if key = "maxLength" then c.maxLength.map (.number ∘ .ofNat)
    else if key = "pattern" then c.pattern.map fun p ↦ .string p.source
    else none := by
  simp only [Constraints.keywords, List.lookup_append, lookup_keyword]
  split
  · simp [*]
  split
  · simp [*]
  split
  · simp [*]
  split <;> simp [*]

theorem hasType_keyword (kind : Blueprint.ScalarKind) (v : Value) :
    hasType kind.keyword v = Validation.isOfKind kind v := by
  cases kind <;> cases v <;> rfl

def scalarKeywords (scalar : Scalar) : List (String × Value) :=
  ("type", .string scalar.kind.keyword) :: scalar.constraints.keywords

theorem lookup_scalarKeywords (scalar : Scalar) (key : String) :
    (scalarKeywords scalar).lookup key =
      if key = "type" then some (.string scalar.kind.keyword)
      else scalar.constraints.keywords.lookup key := by
  rw [scalarKeywords, Json.lookup_cons_ite]

variable {scalar : Scalar} {v : Value}

variable [PatternEngine]

theorem admits_of_asserted (hs : scalar.WellFormed) (h : Asserted (scalarKeywords scalar) v) :
    scalar.Admits v := by
  obtain ⟨constraints, -⟩ := hs
  refine ⟨?kind, Constraints.met_iff.2 ⟨?minimum, ?maximum, ?minLength, ?maxLength, ?pattern⟩⟩
  case kind =>
    obtain ⟨name, hname, hv⟩ := h.type _ (by rw [lookup_scalarKeywords]; rfl)
    cases hname
    rwa [hasType_keyword] at hv
  case minimum =>
    intro n m hn given
    obtain ⟨m', hm', hbound⟩ := h.minimum (.number m)
      (by simp [lookup_scalarKeywords, lookup_keywords, given])
    cases hm'
    exact hbound n hn
  case maximum =>
    intro n m hn given
    obtain ⟨m', hm', hbound⟩ := h.maximum (.number m)
      (by simp [lookup_scalarKeywords, lookup_keywords, given])
    cases hm'
    exact hbound n hn
  case minLength =>
    intro text m htext given
    obtain ⟨m', hm', hbound⟩ := h.minLength (.number (.ofNat m))
      (by simp [lookup_scalarKeywords, lookup_keywords, given])
    rw [length?_ofNat (constraints.minLength_lt m given)] at hm'
    cases hm'
    exact hbound text htext
  case maxLength =>
    intro text m htext given
    obtain ⟨m', hm', hbound⟩ := h.maxLength (.number (.ofNat m))
      (by simp [lookup_scalarKeywords, lookup_keywords, given])
    rw [length?_ofNat (constraints.maxLength_lt m given)] at hm'
    cases hm'
    exact hbound text htext
  case pattern =>
    intro text p htext given
    obtain ⟨source, search, hsource, hsearch, hfound⟩ := h.pattern (.string p.source)
      (by simp [lookup_scalarKeywords, lookup_keywords, given])
    cases hsource
    rw [constraints.pattern_read p given] at hsearch
    cases hsearch
    exact hfound text htext

theorem asserted_of_admits (hs : scalar.WellFormed) (h : scalar.Admits v) :
    Asserted (scalarKeywords scalar) v := by
  obtain ⟨constraints, -⟩ := hs
  obtain ⟨hkind, hmet⟩ := h
  obtain ⟨hminimum, hmaximum, hminLength, hmaxLength, hpattern⟩ := Constraints.met_iff.1 hmet
  constructor
  all_goals intro k hk
  case type =>
    obtain rfl : Value.string scalar.kind.keyword = k := by simpa [lookup_scalarKeywords] using hk
    exact ⟨_, rfl, by rwa [hasType_keyword]⟩
  case minimum =>
    obtain ⟨m, given, rfl⟩ : ∃ m, scalar.constraints.minimum = some m ∧ .number m = k := by
      simpa [lookup_scalarKeywords, lookup_keywords] using hk
    exact ⟨m, rfl, fun n hn ↦ hminimum n m hn given⟩
  case maximum =>
    obtain ⟨m, given, rfl⟩ : ∃ m, scalar.constraints.maximum = some m ∧ .number m = k := by
      simpa [lookup_scalarKeywords, lookup_keywords] using hk
    exact ⟨m, rfl, fun n hn ↦ hmaximum n m hn given⟩
  case minLength =>
    obtain ⟨m, given, rfl⟩ : ∃ m, scalar.constraints.minLength = some m ∧
        .number (.ofNat m) = k := by
      simpa [lookup_scalarKeywords, lookup_keywords] using hk
    exact ⟨m, length?_ofNat (constraints.minLength_lt m given),
      fun text htext ↦ hminLength text m htext given⟩
  case maxLength =>
    obtain ⟨m, given, rfl⟩ : ∃ m, scalar.constraints.maxLength = some m ∧
        .number (.ofNat m) = k := by
      simpa [lookup_scalarKeywords, lookup_keywords] using hk
    exact ⟨m, length?_ofNat (constraints.maxLength_lt m given),
      fun text htext ↦ hmaxLength text m htext given⟩
  case pattern =>
    obtain ⟨p, given, rfl⟩ : ∃ p, scalar.constraints.pattern = some p ∧ .string p.source = k := by
      simpa [lookup_scalarKeywords, lookup_keywords] using hk
    exact ⟨p.source, p.isFoundIn, rfl, constraints.pattern_read p given,
      fun text htext ↦ hpattern text p htext given⟩
  case required | properties => simp [lookup_scalarKeywords, lookup_keywords] at hk

theorem valid_scalar_iff {document : Value} (hs : scalar.WellFormed) :
    Valid document (.object (scalarKeywords scalar)) v ↔ scalar.Admits v := by
  refine ⟨fun h ↦ admits_of_asserted hs h.asserted, fun h ↦ ?_⟩
  refine .keywords (asserted_of_admits hs h) ?_ ?_ ?_ ?_
  all_goals
    intro k hk
    simp [lookup_scalarKeywords, lookup_keywords] at hk

end Scalars

section Types

variable {s : Schema} {document : Value} {root id : Nat} {type : FieldType} {v : Value}
  {scalar : Scalar}

def Schema.keywords (s : Schema) (type : FieldType) : List (String × Value) :=
  s.typeKeywords s.objectKeywords type

theorem keywords_scalar : s.keywords (.scalar scalar) = scalarKeywords scalar := rfl

theorem keywords_named :
    s.keywords (.named id) = [("$ref", .string ("#/$defs/" ++ (s.definition id).name))] := rfl

theorem keywords_inline : s.keywords (.inline id) = s.objectKeywords id := rfl

theorem keywords_array {item : FieldType} : s.keywords (.array item) =
    [("type", .string "array"), ("items", .object (s.keywords item))] := rfl

def Schema.property (s : Schema) (f : FieldDefinition) : String × Value :=
  (f.name, .object (s.keywords f.type ++ f.default.toList.map ("default", ·)))

variable [PatternEngine]

theorem typeKeywords_congr {inline inline' : Nat → List (String × Value)} {declared low high : Nat}
    (h : type.Within declared low high)
    (same : ∀ id, low ≤ id → id < high → inline id = inline' id) :
    s.typeKeywords inline type = s.typeKeywords inline' type := by
  induction type with
  | scalar => rfl
  | named => rfl
  | inline id =>
    obtain ⟨hlow, hhigh⟩ : low ≤ id ∧ id < high := h
    exact same id hlow hhigh
  | array item ih =>
    have hitem := ih h
    rw [Schema.typeKeywords, Schema.typeKeywords, hitem]

theorem objectKeywords_eq (hs : s.WellFormed) (id : Nat) : s.objectKeywords id =
    objectSchema ((s.definition id).fields.map s.property)
      (((s.definition id).fields.filter (·.required)).map (·.name)) (s.definition id).closed := by
  have hproperty (f : FieldDefinition) (hf : f ∈ (s.definition id).fields) :
      (f.name, Value.object (s.typeKeywords
        (fun child ↦ if id < child ∧ child < s.types.length then s.objectKeywords child else [])
          f.type ++ f.default.toList.map ("default", ·))) = s.property f := by
    have hwithin := ((hs.definition id).fields f hf).type
    rw [Schema.property, Schema.keywords, typeKeywords_congr hwithin]
    intro child hlow hhigh
    exact if_pos ⟨Nat.lt_of_succ_le (Nat.le_trans (Nat.le_max_right _ _) hlow), hhigh⟩
  rw [Schema.objectKeywords, objectSchema, List.map_map]
  simp only [List.map_congr_left hproperty, List.isEmpty_map]
  rfl

/-- A type whose object types the search from a root finds. -/
def FieldType.Found (s : Schema) (root : Nat) : FieldType → Prop
  | .scalar sc => sc.WellFormed
  | .named id => id ∈ s.reachable root ∧ id < s.typeNames.length
  | .inline id => id ∈ s.reachable root
  | .array item => item.Found s root

theorem found_of_within {low : Nat} (h : type.Within s.typeNames.length low s.types.length)
    (htarget : ∀ next, type.target? = some next → next < s.types.length →
      next ∈ s.reachable root) : type.Found s root := by
  induction type with
  | scalar => exact h
  | named id =>
    have hid : id < s.typeNames.length := h
    exact ⟨htarget id rfl (Nat.lt_of_lt_of_le hid Schema.typeNames_length_le), hid⟩
  | inline id =>
    obtain ⟨-, hid⟩ : low ≤ id ∧ id < s.types.length := h
    exact htarget id rfl hid
  | array item ih => exact ih h htarget

theorem found_of_field (hs : s.WellFormed) (hid : id ∈ s.reachable root) {f : FieldDefinition}
    (hf : f ∈ (s.definition id).fields) : f.type.Found s root := by
  refine found_of_within ((hs.definition id).fields f hf).type fun next hnext hlt ↦ ?_
  refine Schema.successor_mem_reachable hid ?_ hlt
  exact List.mem_filterMap.2 ⟨f, hf, hnext⟩

def Resolves (document : Value) (s : Schema) (root : Nat) : Prop :=
  ∀ id ∈ s.reachable root, id < s.typeNames.length →
    target document (Schema.reference (s.definition id).name).2 = .object (s.objectKeywords id)

theorem valid_keywords_iff (hdoc : Resolves document s root) (hfound : type.Found s root)
    (isObject : type.objectId? = some id) :
    Valid document (.object (s.keywords type)) v ↔
      Valid document (.object (s.objectKeywords id)) v := by
  cases type with
  | named place =>
    obtain rfl := Option.some.inj isObject
    rw [keywords_named, valid_reference_iff]
    have htarget := hdoc place hfound.1 hfound.2
    rw [Schema.reference] at htarget
    rw [htarget]
  | inline place =>
    obtain rfl := Option.some.inj isObject
    rfl
  | scalar | array => cases isObject

theorem not_valid_of_kind (hs : s.WellFormed) (hdoc : Resolves document s root)
    (hfound : type.Found s root) (wrong : type.admitsKind v = false) :
    ¬ Valid document (.object (s.keywords type)) v := by
  intro h
  cases type with
  | scalar scalar =>
    have hadmits : scalar.Admits v := (valid_scalar_iff hfound).1 h
    have hkind : Validation.isOfKind scalar.kind v = false := wrong
    rw [hadmits.1] at hkind
    cases hkind
  | named id | inline id =>
    rw [valid_keywords_iff hdoc hfound rfl, objectKeywords_eq hs] at h
    have htype : hasType "object" v = true := h.hasType (by simp [lookup_objectSchema])
    cases v with
    | object => cases wrong
    | null | bool | number | string | array => cases htype
  | array item =>
    have htype : hasType "array" v = true := h.hasType rfl
    cases v with
    | array => cases wrong
    | null | bool | number | string | object => cases htype

theorem mem_reachable_of_found (hfound : type.Found s root) (isObject : type.objectId? = some id) :
    id ∈ s.reachable root := by
  cases type with
  | named place =>
    obtain rfl := Option.some.inj isObject
    exact hfound.1
  | inline place =>
    obtain rfl := Option.some.inj isObject
    exact hfound
  | scalar | array => cases isObject

theorem lookup_property (hs : s.WellFormed) {f : FieldDefinition}
    (hf : f ∈ (s.definition id).fields) :
    ((s.definition id).fields.map s.property).lookup f.name = some (s.property f).2 :=
  Json.lookup_map_of_mem (·.name) (fun f ↦ (s.property f).2) (hs.fields_nodup id) hf

theorem valid_object_iff (hs : s.WellFormed) (hid : id ∈ s.reachable root)
    (isObject : type.objectId? = some id) {members : List (String × Value)}
    (ih : ∀ m ∈ members, ∀ type : FieldType, type.Found s root →
      (Valid document (.object (s.keywords type)) m.2 ↔ Conforms s type m.2)) :
    Valid document (.object (s.objectKeywords id)) (.object members) ↔
      Conforms s type (.object members) := by
  -- A property and its field say the same about a member.
  have hfield {f : FieldDefinition} (hf : f ∈ (s.definition id).fields) {w : Value}
      (hw : members.lookup f.name = some w) :
      Valid document (s.property f).2 w ↔ Conforms s f.type w := by
    rw [Schema.property, valid_append_default_iff]
    exact ih _ (Json.mem_of_lookup hw) f.type (found_of_field hs hid hf)
  rw [objectKeywords_eq hs, valid_objectSchema_iff, Validation.conforms_object_iff isObject]
  refine and_congr ?required (and_congr ?present ?closed)
  case required =>
    constructor
    · intro h f hf hrequired
      exact h f.name (List.mem_map_of_mem (List.mem_filter.2 ⟨hf, hrequired⟩))
    · intro h name hname
      obtain ⟨f, hf, rfl⟩ := List.mem_map.1 hname
      obtain ⟨hf, hrequired⟩ := List.mem_filter.1 hf
      exact h f hf hrequired
  case present =>
    constructor
    · intro h f hf w hw
      exact (hfield hf hw).1 (h f.name _ w (lookup_property hs hf) hw)
    · intro h name schema w hschema hw
      obtain ⟨f, hf, heq⟩ := List.mem_map.1 (Json.mem_of_lookup hschema)
      cases heq
      exact (hfield hf hw).2 (h f hf w hw)
  case closed => simp [Schema.property]

theorem valid_iff_conforms (hs : s.WellFormed) (hdoc : Resolves document s root)
    (hfound : type.Found s root) :
    Valid document (.object (s.keywords type)) v ↔ Conforms s type v := by
  induction v, type using typedInduction with
  | scalar v scalar =>
    rw [Validation.conforms_scalar_iff]
    exact valid_scalar_iff hfound
  | wrongKind v type wrong =>
    exact iff_of_false (not_valid_of_kind hs hdoc hfound wrong)
      (Validation.not_conforms_of_kind wrong)
  | array items item ih =>
    rw [keywords_array, valid_array_iff, Validation.conforms_array_iff]
    exact forall₂_congr fun v hv ↦ ih v hv item hfound
  | object members type id isObject ih =>
    rw [valid_keywords_iff hdoc hfound isObject]
    exact valid_object_iff hs (mem_reachable_of_found hfound isObject) isObject fun m hm type h ↦
      ih m hm type h

end Types

section Documents

variable {s : Schema} {root id : Nat} {name : String}

def Schema.definitions (s : Schema) (root : Nat) : List (String × Value) :=
  ((s.reachable root).filter fun id ↦ !(s.definition id).anonymous).map fun id ↦
    ((s.definition id).name, .object (s.objectKeywords id))

def Schema.documentKeywords (s : Schema) (name : String) (root : Nat) : List (String × Value) :=
  [("$schema", .string "https://json-schema.org/draft/2020-12/schema"), ("title", .string name),
    Schema.reference (s.definition root).name, ("$defs", .object (s.definitions root))]

theorem lookup_documentKeywords (key : String) : (s.documentKeywords name root).lookup key =
    if key = "$schema" then some (.string "https://json-schema.org/draft/2020-12/schema")
    else if key = "title" then some (.string name)
    else if key = "$ref" then some (.string ("#/$defs/" ++ (s.definition root).name))
    else if key = "$defs" then some (.object (s.definitions root)) else none := by
  simp [Schema.documentKeywords, Schema.reference, Json.lookup_cons_ite]

theorem jsonSchema_eq_ok (h : s.rootId name = .ok root) :
    s.jsonSchema name = .ok (.object (s.documentKeywords name root)) := by
  rw [Schema.jsonSchema, h]
  rfl

theorem target_reference {keywords definitions : List (String × Value)} {schema : Value}
    (hname : Blueprint.IsWord name) (hdefs : keywords.lookup "$defs" = some (.object definitions))
    (hschema : definitions.lookup name = some schema) :
    target (.object keywords) (Schema.reference name).2 = schema := by
  have hslash : '/' ∉ name.toList := hname.not_mem (by decide)
  have htilde : '~' ∉ name.toList := hname.not_mem (by decide)
  have hpercent : '%' ∉ "/$defs/".toList ++ name.toList := by
    rw [List.mem_append, not_or]
    exact ⟨by decide, hname.not_mem (by decide)⟩
  have htext : ("#/$defs/" ++ name).toList = '#' :: ("/$defs/".toList ++ name.toList) := by
    rw [String.toList_append]
    rfl
  have hpointer : (String.ofList ("/$defs/".toList ++ name.toList)).toList =
      ["$defs".toList, name.toList].flatMap ('/' :: ·) := by
    rw [String.toList_ofList, List.flatMap_cons, List.flatMap_singleton]
    rfl
  have hplain : ∀ key ∈ ["$defs".toList, name.toList], Json.Pointer.Plain key := by
    refine List.forall_mem_cons.2 ⟨?_, List.forall_mem_singleton.2 ⟨hslash, htilde⟩⟩
    constructor <;> decide
  simp only [Schema.reference, target, htext, if_neg hpercent,
    Json.Pointer.follow_of_plain (.object keywords) hpointer hplain]
  simp [Json.Pointer.step, Value.member?, hdefs, hschema]

variable [PatternEngine]

theorem definitions_keys_nodup (hs : s.WellFormed) : ((s.definitions root).map (·.1)).Nodup := by
  have hlt (place : Nat)
      (hplace : place ∈ (s.reachable root).filter fun id ↦ !(s.definition id).anonymous) :
      place < s.typeNames.length := by
    obtain ⟨hreachable, hanonymous⟩ := List.mem_filter.1 hplace
    exact hs.lt_of_not_anonymous (Schema.lt_of_mem_reachable hreachable) (by simpa using hanonymous)
  rw [Schema.definitions, List.map_map]
  refine List.Nodup.map_on (fun i hi j hj hname ↦ ?_) (Schema.reachable_nodup.filter _)
  exact hs.eq_of_name_eq (hlt i hi) (hlt j hj) hname

theorem lookup_definitions (hs : s.WellFormed) (hid : id ∈ s.reachable root)
    (hdeclared : id < s.typeNames.length) :
    (s.definitions root).lookup (s.definition id).name = some (.object (s.objectKeywords id)) := by
  have hnodup : ((s.definitions root).map (·.1)).Nodup := definitions_keys_nodup hs
  rw [Schema.definitions, List.map_map] at hnodup
  refine Json.lookup_map_of_mem (fun id ↦ (s.definition id).name) _ hnodup ?_
  exact List.mem_filter.2 ⟨hid, by simp [(hs.typeNames_getElem? hdeclared).2]⟩

theorem resolves_document (hs : s.WellFormed) (hwords : ∀ name ∈ s.typeNames, Blueprint.IsWord name) :
    Resolves (.object (s.documentKeywords name root)) s root := by
  intro id hid hdeclared
  have hname := List.mem_of_getElem? (hs.typeNames_getElem? hdeclared).1
  refine target_reference (hwords _ hname) ?_ (lookup_definitions hs hid hdeclared)
  simp [lookup_documentKeywords]

theorem valid_document_iff {document v : Value} :
    Valid document (.object (s.documentKeywords name root)) v ↔
      Valid document (.object (s.keywords (.named root))) v := by
  refine valid_congr fun key hkey ↦ ?_
  rw [keywords_named]
  simp only [vocabulary, List.mem_cons, List.not_mem_nil, or_false] at hkey
  rcases hkey with rfl | rfl | rfl | rfl | rfl | rfl | rfl | rfl | rfl | rfl | rfl
  all_goals simp [lookup_documentKeywords, Json.lookup_cons_ite]

end Documents

open Blueprint (Source compile partsBlueprint partsSchema compile_partsBlueprint plainPart
  plainPartInFull faultyPart)

/-- The JSON Schema of a root of a compiled schema admits exactly the values that the root accepts. -/
theorem jsonSchema_admits_exactly_accepted [PatternEngine] {openByDefault : Bool} {source : Source}
    {s : Schema} {name : String} {r : Root} (compiled : compile openByDefault source = .ok s)
    (root : s.root name = .ok r) :
    ∃ document, s.jsonSchema name = .ok document ∧
      ∀ v, (∃ n, r.validate v = .ok n) ↔ Valid document document v := by
  obtain ⟨rfl, hid, hmem⟩ := Schema.root_eq_ok root
  have hs := Blueprint.compile_wellFormed compiled
  have hwords := Blueprint.isWord_of_mem_typeNames compiled
  have hdeclared : r.id < r.schema.typeNames.length :=
    (List.getElem?_eq_some_iff.1 (hs.roots name r.id hmem)).1
  have hreachable : r.id ∈ r.schema.reachable r.id :=
    Schema.root_mem_reachable (Nat.lt_of_lt_of_le hdeclared Schema.typeNames_length_le)
  have hfound : (FieldType.named r.id).Found r.schema r.id := ⟨hreachable, hdeclared⟩
  refine ⟨_, jsonSchema_eq_ok hid, fun v ↦ ?_⟩
  rw [Root.exists_validate_eq_ok_iff, valid_document_iff]
  exact (valid_iff_conforms hs (resolves_document hs hwords) hfound).symm

theorem jsonSchema_admits_plainPart :
    (compile false partsBlueprint = .ok partsSchema ∧
      partsSchema.root "Part" = .ok ⟨partsSchema, "Part", 0⟩) ∧
    ∃ document, partsSchema.jsonSchema "Part" = .ok document ∧
      Valid document document plainPart ∧ ¬ Valid document document faultyPart := by
  have hroot : partsSchema.root "Part" = .ok ⟨partsSchema, "Part", 0⟩ := rfl
  obtain ⟨document, hdocument, hadmits⟩ :=
    jsonSchema_admits_exactly_accepted compile_partsBlueprint hroot
  refine ⟨⟨compile_partsBlueprint, hroot⟩, document, hdocument, ?_, fun hvalid ↦ ?_⟩
  · exact (hadmits plainPart).1 ⟨plainPartInFull, by rfl⟩
  · obtain ⟨n, hn⟩ := (hadmits faultyPart).2 hvalid
    cases hn

end DocumentSchema
