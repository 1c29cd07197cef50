import DocumentSchema.Json.Pointer
import DocumentSchema.Pattern
import DocumentSchema.Proofs.Json.Members

namespace DocumentSchema.JsonSchema

open Json (Value)

/-- Is a value of a type that the keyword `type` may name? A number without fractional part is an
integer. -/
def hasType : String → Value → Bool
  | "null", .null | "boolean", .bool _ | "number", .number _ | "string", .string _ => true
  | "array", .array _ | "object", .object _ => true
  | "integer", .number n => n.isIntegral
  | _, _ => false

def length? : Value → Option Nat
  | .number n => n.toNat?
  | _ => none

theorem lookup_append_default {k : List (String × Value)} {default : Option Value} {name : String}
    (h : name ≠ "default") :
    (k ++ default.toList.map ("default", ·)).lookup name = k.lookup name := by
  rw [List.lookup_append]
  cases default with
  | none => simp
  | some v =>
    rw [Option.toList_some, List.map_singleton, Json.lookup_cons_ite, if_neg h, List.lookup_nil,
      Option.or_none]

def objectSchema (properties : List (String × Value)) (required : List String) (closed : Bool) :
    List (String × Value) :=
  ("type", .string "object") :: ("properties", .object properties) ::
    ((if required.isEmpty then [] else [("required", .array (required.map .string))]) ++
      (if closed then [("additionalProperties", .bool false)] else []))

theorem lookup_objectSchema (properties : List (String × Value)) (required : List String)
    (closed : Bool) (key : String) : (objectSchema properties required closed).lookup key =
      if key = "type" then some (.string "object")
      else if key = "properties" then some (.object properties)
      else if key = "required" then
        if required.isEmpty then none else some (.array (required.map .string))
      else if key = "additionalProperties" then if closed then some (.bool false) else none
      else none := by
  have hrequired : (if required.isEmpty then [] else
      [("required", Value.array (required.map .string))]).lookup key =
        if key = "required" ∧ required.isEmpty = false then
          some (.array (required.map .string)) else none := by
    cases required.isEmpty <;> simp [Json.lookup_cons_ite]
  have hclosed : (if closed then [("additionalProperties", Value.bool false)] else []).lookup key =
      if key = "additionalProperties" ∧ closed = true then some (.bool false) else none := by
    cases closed <;> simp [Json.lookup_cons_ite]
  rw [objectSchema, Json.lookup_cons_ite, Json.lookup_cons_ite, List.lookup_append, hrequired,
    hclosed]
  split
  · rfl
  split
  · rfl
  by_cases hkey : key = "required"
  · subst hkey
    cases required.isEmpty <;> simp
  · cases closed <;> simp [hkey]

variable [PatternEngine]

/-- The keywords that do not look inside a value. -/
structure Asserted (keywords : List (String × Value)) (v : Value) : Prop where
  type : ∀ k, keywords.lookup "type" = some k → ∃ name, k = .string name ∧ hasType name v = true
  minimum : ∀ k, keywords.lookup "minimum" = some k →
    ∃ m, k = .number m ∧ ∀ n, v = .number n → n.order m ≠ .lt
  maximum : ∀ k, keywords.lookup "maximum" = some k →
    ∃ m, k = .number m ∧ ∀ n, v = .number n → n.order m ≠ .gt
  minLength : ∀ k, keywords.lookup "minLength" = some k →
    ∃ m, length? k = some m ∧ ∀ text, v = .string text → m ≤ text.length
  maxLength : ∀ k, keywords.lookup "maxLength" = some k →
    ∃ m, length? k = some m ∧ ∀ text, v = .string text → text.length ≤ m
  pattern : ∀ k, keywords.lookup "pattern" = some k →
    ∃ source search, k = .string source ∧ PatternEngine.search source = .ok search ∧
      ∀ text, v = .string text → search text = true
  required : ∀ k, keywords.lookup "required" = some k →
    ∃ names : List String, k = .array (names.map .string) ∧
      ∀ members, v = .object members → ∀ name ∈ names, name ∈ members.map (·.1)
  properties : ∀ k, keywords.lookup "properties" = some k → ∃ members, k = .object members

/-- The schema that a reference leads to: a pointer into the document around it, after a `#`. A
reference that leads nowhere admits nothing. -/
def target (document : Value) : Value → Value
  | .string reference =>
    match reference.toList with
    | '#' :: pointer =>
      -- A percent sign would stand for another character.
      if '%' ∈ pointer then .bool false
      else (Json.Pointer.follow (String.ofList pointer) document).getD (.bool false)
    | _ => .bool false
  | _ => .bool false

def propertyNames (keywords : List (String × Value)) : List String :=
  match keywords.lookup "properties" with
  | some (.object members) => members.map (·.1)
  | _ => []

/-- A value is valid against a schema inside a document. -/
inductive Valid (document : Value) : Value → Value → Prop
  | always {v : Value} : Valid document (.bool true) v
  | keywords {keywords : List (String × Value)} {v : Value} (asserted : Asserted keywords v)
      (reference : ∀ k, keywords.lookup "$ref" = some k → Valid document (target document k) v)
      (properties : ∀ k, keywords.lookup "properties" = some k → ∀ name schema w,
        k.member? name = some schema → v.member? name = some w → Valid document schema w)
      (additionalProperties : ∀ schema, keywords.lookup "additionalProperties" = some schema →
        ∀ name w, v.member? name = some w → name ∉ propertyNames keywords →
          Valid document schema w)
      (items : ∀ schema, keywords.lookup "items" = some schema → ∀ i w, v.element? i = some w →
        Valid document schema w) :
      Valid document (.object keywords) v

def vocabulary : List String :=
  ["type", "minimum", "maximum", "minLength", "maxLength", "pattern", "required", "properties",
    "$ref", "additionalProperties", "items"]

section Congruence

variable {document : Value} {k k' : List (String × Value)} {v : Value}

theorem Asserted.congr (h : Asserted k v)
    (same : ∀ name ∈ vocabulary, k'.lookup name = k.lookup name) : Asserted k' v where
  type := by rw [same _ (by decide)]; exact h.type
  minimum := by rw [same _ (by decide)]; exact h.minimum
  maximum := by rw [same _ (by decide)]; exact h.maximum
  minLength := by rw [same _ (by decide)]; exact h.minLength
  maxLength := by rw [same _ (by decide)]; exact h.maxLength
  pattern := by rw [same _ (by decide)]; exact h.pattern
  required := by rw [same _ (by decide)]; exact h.required
  properties := by rw [same _ (by decide)]; exact h.properties

theorem Valid.congr (h : Valid document (.object k) v)
    (same : ∀ name ∈ vocabulary, k'.lookup name = k.lookup name) :
    Valid document (.object k') v := by
  have hnames : propertyNames k' = propertyNames k := by
    rw [propertyNames, propertyNames, same _ (by decide)]
  cases h with
  | keywords asserted reference properties additionalProperties items =>
    refine .keywords (asserted.congr same) ?_ ?_ ?_ ?_
    · rw [same _ (by decide)]
      exact reference
    · rw [same _ (by decide)]
      exact properties
    · rw [same _ (by decide), hnames]
      exact additionalProperties
    · rw [same _ (by decide)]
      exact items

theorem valid_congr (same : ∀ name ∈ vocabulary, k'.lookup name = k.lookup name) :
    Valid document (.object k') v ↔ Valid document (.object k) v :=
  ⟨fun h ↦ h.congr fun name hname ↦ (same name hname).symm, fun h ↦ h.congr same⟩

theorem valid_append_default_iff {default : Option Value} :
    Valid document (.object (k ++ default.toList.map ("default", ·))) v ↔
      Valid document (.object k) v := by
  refine valid_congr fun name hname ↦ lookup_append_default ?_
  rintro rfl
  simp [vocabulary] at hname

end Congruence

section Keywords

variable {document schema : Value} {k : List (String × Value)} {v : Value}

theorem Valid.asserted (h : Valid document (.object k) v) : Asserted k v := by
  cases h with
  | keywords asserted => exact asserted

theorem Valid.hasType {name : String} (h : Valid document (.object k) v)
    (hk : k.lookup "type" = some (.string name)) : hasType name v = true := by
  obtain ⟨name', hname, htype⟩ := h.asserted.type _ hk
  cases hname
  exact htype

theorem valid_reference_iff {reference : Value} :
    Valid document (.object [("$ref", reference)]) v ↔
      Valid document (target document reference) v := by
  constructor
  · intro h
    cases h with
    | keywords _ hreference => exact hreference reference rfl
  · intro h
    have hasserted : Asserted [("$ref", reference)] v := by
      constructor <;> intro k hk <;> cases hk
    refine .keywords hasserted (fun k hk ↦ ?_) ?_ ?_ ?_
    · cases hk
      exact h
    all_goals
      intro k hk
      cases hk

theorem valid_array_iff {items : List Value} :
    Valid document (.object [("type", .string "array"), ("items", schema)]) (.array items) ↔
      ∀ v ∈ items, Valid document schema v := by
  constructor
  · intro h v hv
    obtain ⟨i, hi⟩ := List.mem_iff_getElem?.1 hv
    cases h with
    | keywords _ _ _ _ hitems => exact hitems schema rfl i v hi
  · intro h
    have hasserted : Asserted [("type", .string "array"), ("items", schema)] (.array items) := by
      constructor <;> intro k hk <;> cases hk
      exact ⟨"array", rfl, rfl⟩
    refine .keywords hasserted ?_ ?_ ?_ fun k hk i v hi ↦ ?_
    case refine_4 =>
      cases hk
      exact h v (List.mem_of_getElem? hi)
    all_goals
      intro k hk
      cases hk

variable {properties members : List (String × Value)} {required : List String} {closed : Bool}

omit [PatternEngine] in
theorem propertyNames_objectSchema :
    propertyNames (objectSchema properties required closed) = properties.map (·.1) := by
  simp [propertyNames, lookup_objectSchema]

theorem asserted_objectSchema_iff :
    Asserted (objectSchema properties required closed) (.object members) ↔
      ∀ name ∈ required, name ∈ members.map (·.1) := by
  constructor
  · intro h name hname
    have hnonempty : required.isEmpty = false := by
      cases required with
      | nil => cases hname
      | cons => rfl
    obtain ⟨names, hnames, hpresent⟩ := h.required (.array (required.map .string))
      (by simp [lookup_objectSchema, hnonempty])
    have hsame : required = names :=
      (List.map_inj_right fun _ _ h ↦ Value.string.inj h).1 (Value.array.inj hnames)
    exact hpresent members rfl name (hsame ▸ hname)
  · intro h
    constructor
    all_goals intro k hk
    case type =>
      obtain rfl : Value.string "object" = k := by simpa [lookup_objectSchema] using hk
      exact ⟨_, rfl, rfl⟩
    case required =>
      obtain ⟨-, rfl⟩ : required ≠ [] ∧ Value.array (required.map .string) = k := by
        simpa [lookup_objectSchema] using hk
      refine ⟨required, rfl, fun members' hmembers ↦ ?_⟩
      cases hmembers
      exact h
    case properties =>
      obtain rfl : Value.object properties = k := by simpa [lookup_objectSchema] using hk
      exact ⟨properties, rfl⟩
    all_goals simp [lookup_objectSchema] at hk

theorem valid_objectSchema_iff :
    Valid document (.object (objectSchema properties required closed)) (.object members) ↔
      (∀ name ∈ required, name ∈ members.map (·.1)) ∧
      (∀ name schema w, properties.lookup name = some schema → members.lookup name = some w →
        Valid document schema w) ∧
      (closed = true → ∀ key ∈ members.map (·.1), key ∈ properties.map (·.1)) := by
  constructor
  · intro h
    refine ⟨asserted_objectSchema_iff.1 h.asserted, ?_⟩
    cases h with
    | keywords _ _ hproperties hadditional _ =>
      refine ⟨fun name schema w hschema hw ↦ ?_, fun hclosed key hkey ↦ ?_⟩
      · exact hproperties (.object properties) (by simp [lookup_objectSchema]) name schema w
          hschema hw
      · by_contra hundeclared
        rw [← propertyNames_objectSchema] at hundeclared
        obtain ⟨w, hw⟩ := Json.mem_keys_iff.1 hkey
        have hrefused := hadditional (.bool false) (by simp [lookup_objectSchema, hclosed]) key w hw
          hundeclared
        cases hrefused
  · rintro ⟨hrequired, hproperties, hclosed⟩
    refine .keywords (asserted_objectSchema_iff.2 hrequired) ?_ ?_ ?_ ?_
    · simp [lookup_objectSchema]
    · intro k hk name schema w hschema hw
      obtain rfl : Value.object properties = k := by simpa [lookup_objectSchema] using hk
      exact hproperties name schema w hschema hw
    · intro schema hschema key w hw hundeclared
      rw [propertyNames_objectSchema] at hundeclared
      obtain ⟨hc, -⟩ : closed = true ∧ Value.bool false = schema := by
        simpa [lookup_objectSchema] using hschema
      exact absurd (hclosed hc key (Json.mem_keys_iff.2 ⟨w, hw⟩)) hundeclared
    · simp [lookup_objectSchema]

end Keywords

end DocumentSchema.JsonSchema
