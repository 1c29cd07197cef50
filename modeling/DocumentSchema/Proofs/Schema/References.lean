import DocumentSchema.Pattern.Engine
import DocumentSchema.Proofs.Schema.JsonSchema
import DocumentSchema.Proofs.Schema.Search

namespace DocumentSchema

open Blueprint (Source compile partsBlueprint partsSchema compile_partsBlueprint)
open Json (Value)

namespace JsonSchema

inductive Subschema (document : Value) : Value → Prop
  | whole : Subschema document document
  | definition {keywords definitions : List (String × Value)} {name : String} {schema : Value}
      (outer : Subschema document (.object keywords))
      (given : keywords.lookup "$defs" = some (.object definitions))
      (among : (name, schema) ∈ definitions) : Subschema document schema
  | property {keywords properties : List (String × Value)} {name : String} {schema : Value}
      (outer : Subschema document (.object keywords))
      (given : keywords.lookup "properties" = some (.object properties))
      (among : (name, schema) ∈ properties) : Subschema document schema
  | additional {keywords : List (String × Value)} {schema : Value}
      (outer : Subschema document (.object keywords))
      (given : keywords.lookup "additionalProperties" = some schema) : Subschema document schema
  | items {keywords : List (String × Value)} {schema : Value}
      (outer : Subschema document (.object keywords))
      (given : keywords.lookup "items" = some schema) : Subschema document schema

def Referred (document : Value) (name : String) : Prop :=
  ∃ keywords, Subschema document (.object keywords) ∧
    keywords.lookup "$ref" = some (.string ("#/$defs/" ++ name))

/-- All references in a document lead to its definitions, and all of its definitions are referred
to. -/
structure SelfContained (document : Value) (definitions : List (String × Value)) : Prop where
  resolved : ∀ keywords reference, Subschema document (.object keywords) →
    keywords.lookup "$ref" = some reference →
      ∃ name schema, reference = .string ("#/$defs/" ++ name) ∧ (name, schema) ∈ definitions ∧
        target document reference = schema
  referred : ∀ name ∈ definitions.map (·.1), Referred document name

end JsonSchema

open JsonSchema

variable {s : Schema} {root id : Nat} {type : FieldType} {name : String} {document : Value}

section Resolved

variable [PatternEngine]

inductive Emitted (s : Schema) (root : Nat) : Value → Prop
  | refused : Emitted s root (.bool false)
  | type {type : FieldType} (found : type.Found s root) (default : Option Value) :
      Emitted s root (.object (s.keywords type ++ default.toList.map ("default", ·)))

theorem emitted_keywords (found : type.Found s root) : Emitted s root (.object (s.keywords type)) := by
  simpa using Emitted.type found none

/-- Keywords with nothing inside but what may be written, and references to declared types. -/
structure EmittedInside (s : Schema) (root : Nat) (keywords : List (String × Value)) : Prop where
  definitions : keywords.lookup "$defs" = none
  properties : ∀ properties, keywords.lookup "properties" = some (.object properties) →
    ∀ m ∈ properties, Emitted s root m.2
  additional : ∀ schema, keywords.lookup "additionalProperties" = some schema →
    Emitted s root schema
  items : ∀ schema, keywords.lookup "items" = some schema → Emitted s root schema
  reference : ∀ reference, keywords.lookup "$ref" = some reference →
    ∃ id ∈ s.reachable root, id < s.typeNames.length ∧
      reference = .string ("#/$defs/" ++ (s.definition id).name)

theorem EmittedInside.append_default {keywords : List (String × Value)}
    (h : EmittedInside s root keywords) (default : Option Value) :
    EmittedInside s root (keywords ++ default.toList.map ("default", ·)) := by
  constructor
  all_goals rw [lookup_append_default (by decide)]
  · exact h.definitions
  · exact h.properties
  · exact h.additional
  · exact h.items
  · exact h.reference

theorem emittedInside_object (hs : s.WellFormed) (hid : id ∈ s.reachable root) :
    EmittedInside s root (s.objectKeywords id) := by
  rw [objectKeywords_eq hs]
  constructor
  case properties =>
    intro properties given m hm
    obtain rfl : (s.definition id).fields.map s.property = properties := by
      simpa [lookup_objectSchema] using given
    obtain ⟨f, hf, rfl⟩ := List.mem_map.1 hm
    exact .type (found_of_field hs hid hf) f.default
  case additional =>
    intro schema given
    obtain ⟨-, rfl⟩ : (s.definition id).closed = true ∧ Value.bool false = schema := by
      simpa [lookup_objectSchema] using given
    exact .refused
  all_goals simp [lookup_objectSchema]

theorem emittedInside_keywords (hs : s.WellFormed) (found : type.Found s root) :
    EmittedInside s root (s.keywords type) := by
  cases type with
  | scalar scalar =>
    rw [keywords_scalar]
    constructor <;> simp [lookup_scalarKeywords, lookup_keywords]
  | named id =>
    obtain ⟨hreachable, hdeclared⟩ := found
    rw [keywords_named]
    constructor
    case reference =>
      intro reference given
      obtain rfl : Value.string ("#/$defs/" ++ (s.definition id).name) = reference := by
        simpa using given
      exact ⟨id, hreachable, hdeclared, rfl⟩
    all_goals simp [Json.lookup_cons_ite]
  | inline id =>
    rw [keywords_inline]
    exact emittedInside_object hs found
  | array item =>
    rw [keywords_array]
    constructor
    case items =>
      intro schema given
      obtain rfl : Value.object (s.keywords item) = schema := by
        simpa [Json.lookup_cons_ite] using given
      exact emitted_keywords found
    all_goals simp [Json.lookup_cons_ite]

theorem Emitted.inside (hs : s.WellFormed) {keywords : List (String × Value)}
    (h : Emitted s root (.object keywords)) : EmittedInside s root keywords := by
  cases h with
  | type found default => exact (emittedInside_keywords hs found).append_default default

theorem emitted_of_subschema (hs : s.WellFormed) {schema : Value}
    (h : Subschema (.object (s.documentKeywords name root)) schema) :
    schema = .object (s.documentKeywords name root) ∨ Emitted s root schema := by
  induction h with
  | whole => exact .inl rfl
  | @definition keywords definitions _ schema _ given among ih =>
    rcases ih with hwhole | emitted
    · cases hwhole
      obtain rfl : s.definitions root = definitions := by
        simpa [lookup_documentKeywords] using given
      obtain ⟨id, hid, heq⟩ := List.mem_map.1 among
      cases heq
      have hfound : (FieldType.inline id).Found s root := (List.mem_filter.1 hid).1
      exact .inr (emitted_keywords hfound)
    · rw [(emitted.inside hs).definitions] at given
      cases given
  | property _ given among ih =>
    rcases ih with hwhole | emitted
    · cases hwhole
      simp [lookup_documentKeywords] at given
    · exact .inr ((emitted.inside hs).properties _ given _ among)
  | additional _ given ih =>
    rcases ih with hwhole | emitted
    · cases hwhole
      simp [lookup_documentKeywords] at given
    · exact .inr ((emitted.inside hs).additional _ given)
  | items _ given ih =>
    rcases ih with hwhole | emitted
    · cases hwhole
      simp [lookup_documentKeywords] at given
    · exact .inr ((emitted.inside hs).items _ given)

theorem reference_of_subschema (hs : s.WellFormed) (hroot : root ∈ s.reachable root)
    (hdeclared : root < s.typeNames.length) {keywords : List (String × Value)} {reference : Value}
    (h : Subschema (.object (s.documentKeywords name root)) (.object keywords))
    (given : keywords.lookup "$ref" = some reference) :
    ∃ id ∈ s.reachable root, id < s.typeNames.length ∧
      reference = .string ("#/$defs/" ++ (s.definition id).name) := by
  rcases emitted_of_subschema hs h with hwhole | emitted
  · cases hwhole
    obtain rfl : Value.string ("#/$defs/" ++ (s.definition root).name) = reference := by
      simpa [lookup_documentKeywords] using given
    exact ⟨root, hroot, hdeclared, rfl⟩
  · exact (emitted.inside hs).reference reference given

end Resolved

section Referred

variable [PatternEngine]

theorem subschema_definition (hs : s.WellFormed) (hid : id ∈ s.reachable root)
    (hdeclared : id < s.typeNames.length) :
    Subschema (.object (s.documentKeywords name root)) (.object (s.objectKeywords id)) := by
  have hdefs : (s.documentKeywords name root).lookup "$defs" = some (.object (s.definitions root)) := by
    simp [lookup_documentKeywords]
  exact .definition .whole hdefs (Json.mem_of_lookup (lookup_definitions hs hid hdeclared))

theorem subschema_of_target {low high next : Nat}
    (hdefined : next < s.typeNames.length →
      Subschema document (.object (s.objectKeywords next)))
    (within : type.Within s.typeNames.length (max s.typeNames.length low) high)
    (target : type.target? = some next) (h : Subschema document (.object (s.keywords type))) :
    Subschema document (.object (s.objectKeywords next)) ∧
      (next < s.typeNames.length → Referred document (s.definition next).name) := by
  induction type with
  | scalar => cases target
  | named id =>
    obtain rfl := Option.some.inj target
    have hdeclared : id < s.typeNames.length := within
    exact ⟨hdefined hdeclared, fun _ ↦ ⟨_, h, rfl⟩⟩
  | inline id =>
    obtain rfl := Option.some.inj target
    obtain ⟨hlow, -⟩ : max s.typeNames.length low ≤ id ∧ id < high := within
    exact ⟨h, fun hdeclared ↦ by omega⟩
  | array item ih => exact ih within target (.items h rfl)

theorem subschema_of_leadsTo (hs : s.WellFormed) (hroot : root < s.typeNames.length)
    (h : Relation.ReflTransGen s.LeadsTo root id) :
    Subschema (.object (s.documentKeywords name root)) (.object (s.objectKeywords id)) ∧
      (id < s.typeNames.length →
        Referred (.object (s.documentKeywords name root)) (s.definition id).name) := by
  have hlt := Nat.lt_of_lt_of_le hroot Schema.typeNames_length_le
  induction h with
  | refl =>
    refine ⟨subschema_definition hs (Schema.root_mem_reachable hlt) hroot, fun _ ↦ ⟨_, .whole, ?_⟩⟩
    simp [lookup_documentKeywords]
  | @tail id next before hnext ih =>
    obtain ⟨f, hf, htarget⟩ := hnext
    have hreachable : next ∈ s.reachable root :=
      (Schema.mem_reachable_iff hs hlt).2 (before.tail ⟨f, hf, htarget⟩)
    -- A field that leads to an object type has no default among its keywords.
    have hdefault : f.default = none := by
      by_contra hsome
      obtain ⟨v, hv⟩ := Option.ne_none_iff_exists'.1 hsome
      obtain ⟨-, scalar, hscalar, -⟩ := ((hs.definition id).fields f hf).default v hv
      rw [hscalar] at htarget
      cases htarget
    have hproperty : Subschema (.object (s.documentKeywords name root))
        (.object (s.keywords f.type)) := by
      have hmem : (f.name, Value.object (s.keywords f.type)) ∈
          (s.definition id).fields.map s.property := by
        refine List.mem_map.2 ⟨f, hf, ?_⟩
        simp [Schema.property, hdefault]
      have hgiven : (s.objectKeywords id).lookup "properties" =
          some (.object ((s.definition id).fields.map s.property)) := by
        simp [objectKeywords_eq hs, lookup_objectSchema]
      exact .property ih.1 hgiven hmem
    exact subschema_of_target (subschema_definition hs hreachable)
      ((hs.definition id).fields f hf).type htarget hproperty

end Referred

structure SearchOrder (s : Schema) (root : Nat) (found : List Nat) : Prop where
  head : found.head? = some root
  distinct : found.Nodup
  exact : ∀ id, id ∈ found ↔ Relation.ReflTransGen s.LeadsTo root id
  depthFirst : ∀ other, s.DepthFirst [] [root] other ↔ other = found

theorem searchOrder_reachable [PatternEngine] (hs : s.WellFormed) (hroot : root < s.types.length) :
    SearchOrder s root (s.reachable root) where
  head := Schema.head?_reachable hroot
  distinct := Schema.reachable_nodup
  exact _ := Schema.mem_reachable_iff hs hroot
  depthFirst other := by
    have hfound := Schema.depthFirst_reachable hs hroot
    constructor
    · intro h
      exact h.unique hfound
    · rintro rfl
      exact hfound

theorem mem_definitions_iff [PatternEngine] (hs : s.WellFormed) (hroot : root < s.types.length)
    {key : String} : key ∈ (s.definitions root).map (·.1) ↔
      ∃ id, Relation.ReflTransGen s.LeadsTo root id ∧ (s.definition id).anonymous = false ∧
        (s.definition id).name = key := by
  simp [Schema.definitions, Schema.mem_reachable_iff hs hroot, and_assoc]

/-- The JSON Schema of a root is self-contained and tight: its references are references to its
definitions, each of which is referred to, and it defines the declared types that the root leads to,
each once. They are collected by a depth-first search. -/
theorem jsonSchema_self_contained [PatternEngine] {openByDefault : Bool} {source : Source} {r : Root}
    (compiled : compile openByDefault source = .ok s) (root : s.root name = .ok r) :
    SearchOrder s r.id (s.reachable r.id) ∧
      ∃ keywords definitions, s.jsonSchema name = .ok (.object keywords) ∧
        keywords.lookup "$defs" = some (.object definitions) ∧
        SelfContained (.object keywords) definitions ∧ (definitions.map (·.1)).Nodup ∧
        ∀ key, key ∈ definitions.map (·.1) ↔ ∃ id, Relation.ReflTransGen s.LeadsTo r.id id ∧
          (s.definition id).anonymous = false ∧ (s.definition id).name = key := by
  obtain ⟨rfl, hid, hmem⟩ := Schema.root_eq_ok root
  have hs := Blueprint.compile_wellFormed compiled
  have hwords := Blueprint.isWord_of_mem_typeNames compiled
  have hdeclared : r.id < r.schema.typeNames.length :=
    (List.getElem?_eq_some_iff.1 (hs.roots name r.id hmem)).1
  have hlt := Nat.lt_of_lt_of_le hdeclared Schema.typeNames_length_le
  refine ⟨searchOrder_reachable hs hlt, _, r.schema.definitions r.id, jsonSchema_eq_ok hid, ?defs,
    ⟨?resolved, ?referred⟩, ?distinct, fun key ↦ mem_definitions_iff hs hlt⟩
  case defs => simp [lookup_documentKeywords]
  case resolved =>
    intro keywords reference h given
    obtain ⟨id, hreachable, hdeclared', rfl⟩ :=
      reference_of_subschema hs (Schema.root_mem_reachable hlt) hdeclared h given
    exact ⟨_, _, rfl, Json.mem_of_lookup (lookup_definitions hs hreachable hdeclared'),
      resolves_document hs hwords id hreachable hdeclared'⟩
  case referred =>
    intro key hkey
    obtain ⟨id, hleads, hanonymous, rfl⟩ := (mem_definitions_iff hs hlt).1 hkey
    exact (subschema_of_leadsTo hs hdeclared hleads).2 (hs.declared_iff.1 hanonymous)
  case distinct => exact definitions_keys_nodup hs

/-- A part leads to itself, under brackets, and to the type of its place. -/
theorem jsonSchema_self_contained_part :
    (compile false partsBlueprint = .ok partsSchema ∧
      partsSchema.root "Part" = .ok ⟨partsSchema, "Part", 0⟩) ∧
    SearchOrder partsSchema 0 [0, 1] ∧
    ∃ keywords definitions, partsSchema.jsonSchema "Part" = .ok (.object keywords) ∧
      SelfContained (.object keywords) definitions ∧ "Part" ∈ definitions.map (·.1) ∧
      Referred (.object keywords) "Part" := by
  have hroot : partsSchema.root "Part" = .ok ⟨partsSchema, "Part", 0⟩ := rfl
  obtain ⟨hsearch, keywords, definitions, hdocument, -, hcontained, -, hkeys⟩ :=
    jsonSchema_self_contained compile_partsBlueprint hroot
  have hfound : partsSchema.reachable 0 = [0, 1] := by
    have hall : List.range partsSchema.types.length = [0, 1] := rfl
    have hnext : partsSchema.successors 0 = [0, 1] ∧ partsSchema.successors 1 = [] := ⟨rfl, rfl⟩
    simp [Schema.reachable, Schema.visit, hall, hnext]
  have hpart : "Part" ∈ definitions.map (·.1) := (hkeys "Part").2 ⟨0, .refl, rfl, rfl⟩
  exact ⟨⟨compile_partsBlueprint, hroot⟩, hfound ▸ hsearch, keywords, definitions, hdocument,
    hcontained, hpart, hcontained.referred "Part" hpart⟩

end DocumentSchema
