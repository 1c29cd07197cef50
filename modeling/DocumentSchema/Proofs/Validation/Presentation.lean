import DocumentSchema.Pattern.Engine
import DocumentSchema.Proofs.Blueprint.Openness
import DocumentSchema.Proofs.Validation.Replacement
import DocumentSchema.Proofs.Validation.Report
import Mathlib.Logic.Relation

namespace DocumentSchema

open Blueprint
open Json (Value)
open Validation

namespace Validation

/-- The same findings, but those about unknown members of one object may come in another order. -/
inductive SameReport : List Finding → List Finding → Prop
  | nil : SameReport [] []
  | cons (f : Finding) {l l' : List Finding} (rest : SameReport l l') :
      SameReport (f :: l) (f :: l')
  | swap (p : Path) (a b : String) (l : List Finding) :
      SameReport (⟨p ++ [.field a], .unknownField⟩ :: ⟨p ++ [.field b], .unknownField⟩ :: l)
        (⟨p ++ [.field b], .unknownField⟩ :: ⟨p ++ [.field a], .unknownField⟩ :: l)
  | trans {l l' l'' : List Finding} (first : SameReport l l') (then' : SameReport l' l'') :
      SameReport l l''

namespace SameReport

variable {l l' m m' : List Finding}

theorem perm (h : SameReport l l') : l.Perm l' := by
  induction h with
  | nil => exact .nil
  | cons f _ ih => exact ih.cons f
  | swap p a b l => exact .swap _ _ l
  | trans _ _ ih ih' => exact ih.trans ih'

theorem nil_iff (h : SameReport l l') : l = [] ↔ l' = [] := by
  rw [← List.length_eq_zero_iff, h.perm.length_eq, List.length_eq_zero_iff]

theorem refl (l : List Finding) : SameReport l l := by
  induction l with
  | nil => exact .nil
  | cons f l ih => exact ih.cons f

theorem prepend (m : List Finding) (h : SameReport l l') : SameReport (m ++ l) (m ++ l') := by
  induction m with
  | nil => exact h
  | cons f m ih => exact ih.cons f

theorem extend (h : SameReport l l') (m : List Finding) : SameReport (l ++ m) (l' ++ m) := by
  induction h with
  | nil => exact .refl m
  | cons f _ ih => exact ih.cons f
  | swap p a b l => exact .swap p a b (l ++ m)
  | trans _ _ ih ih' => exact ih.trans ih'

theorem append (h : SameReport l l') (h' : SameReport m m') : SameReport (l ++ m) (l' ++ m') :=
  (h.extend m).trans (h'.prepend l')

theorem under (p : Path) (h : SameReport l l') :
    SameReport (l.map (.under p)) (l'.map (.under p)) := by
  induction h with
  | nil => exact .nil
  | cons f _ ih => exact ih.cons _
  | swap q a b l =>
    simp only [List.map_cons, Finding.under, ← List.append_assoc]
    exact .swap (p ++ q) a b _
  | trans _ _ ih ih' => exact ih.trans ih'

theorem of_perm {keys keys' : List String} (h : keys.Perm keys') :
    SameReport (keys.map (⟨[.field ·], .unknownField⟩))
      (keys'.map (⟨[.field ·], .unknownField⟩)) := by
  induction h with
  | nil => exact .nil
  | cons key _ ih => exact ih.cons _
  | swap a b keys => exact .swap [] b a _
  | trans _ _ ih ih' => exact ih.trans ih'

end SameReport

theorem local_sameReport : Local SameReport where
  refl := .refl
  append := .append
  under := .under

def declaredMembers (d : TypeDefinition) (members : List (String × Value)) :
    List (String × Value) :=
  members.filter fun m ↦ (d.field? m.1).isSome

/-- A change of presentation in one place of a value: the members of some object come in another
order, or those that an open type does not declare are others. -/
inductive Edit (s : Schema) (type : FieldType) (v : Value) : Value → Prop
  | reorder {p : Path} {members members' : List (String × Value)}
      (there : PartAt (.object members) p v) (perm : members.Perm members') :
      Edit s type v (replaceAt (.object members') p v)
  | undeclared {p : Path} {t : FieldType} {id : Nat} {members members' : List (String × Value)}
      (visited : Visited s type v p t (.object members)) (isObject : t.objectId? = some id)
      (isOpen : (s.definition id).closed = false)
      (declared : declaredMembers (s.definition id) members =
        declaredMembers (s.definition id) members')
      (distinct : (Value.object members').DistinctKeys) :
      Edit s type v (replaceAt (.object members') p v)

section Edit

variable {s : Schema} {type t : FieldType} {v v' : Value} {id : Nat}
  {members members' : List (String × Value)}

theorem refusedKeys_perm {d : TypeDefinition} {keys keys' : List String} (h : keys.Perm keys') :
    (refusedKeys d keys).Perm (refusedKeys d keys') := by
  unfold refusedKeys
  split
  · exact h.filter _
  · exact .nil

theorem comesToSame_of_perm (distinct : (members.map (·.1)).Nodup) (perm : members.Perm members')
    (type : FieldType) : ComesToSame SameReport s type (.object members) (.object members') := by
  rcases objectId?_or_wrongKind type with ⟨id, isObject⟩ | wrong
  · refine comesToSame_object local_sameReport isObject (fun f _ ↦ ?_) ?_
    · exact fieldComesToSame_of_lookup_eq local_sameReport (Json.lookup_eq_of_perm perm distinct)
    · exact .of_perm (refusedKeys_perm (perm.map _))
  · exact comesToSame_of_kind local_sameReport (wrong _) (wrong _) rfl

theorem lookup_declaredMembers {d : TypeDefinition} {f : FieldDefinition} (hf : f ∈ d.fields)
    (members : List (String × Value)) :
    (declaredMembers d members).lookup f.name = members.lookup f.name := by
  have hkept : (d.field? f.name).isSome = true := by
    rw [← Option.not_isNone, Bool.not_eq_true', ← Bool.not_eq_true,
      TypeDefinition.field?_isNone_iff]
    exact fun h ↦ h f hf rfl
  exact Json.lookup_filter (fun key ↦ (d.field? key).isSome) hkept members

theorem comesToSame_of_declaredMembers (isObject : t.objectId? = some id)
    (isOpen : (s.definition id).closed = false)
    (declared : declaredMembers (s.definition id) members =
      declaredMembers (s.definition id) members') :
    ComesToSame SameReport s t (.object members) (.object members') := by
  refine comesToSame_object local_sameReport isObject (fun f hf ↦ ?_) ?_
  · have hlookup : members.lookup f.name = members'.lookup f.name :=
      calc
        _ = (declaredMembers (s.definition id) members).lookup f.name :=
          (lookup_declaredMembers hf members).symm
        _ = (declaredMembers (s.definition id) members').lookup f.name := by rw [declared]
        _ = members'.lookup f.name := lookup_declaredMembers hf members'
    exact fieldComesToSame_of_lookup_eq local_sameReport hlookup
  · -- An open type refuses no key at all, whatever the undeclared ones are.
    simp [refusedKeys, isOpen, SameReport.nil]

theorem Edit.distinctKeys (h : Edit s type v v') (distinct : v.DistinctKeys) : v'.DistinctKeys := by
  cases h with
  | reorder there perm =>
    have hpart := there.distinctKeys distinct
    refine replaceAt_distinctKeys (.object ?_ fun m hm ↦ ?_) _ v distinct
    · exact (perm.map _).nodup_iff.1 hpart.keys_nodup
    · exact hpart.of_mem (perm.mem_iff.2 hm)
  | undeclared _ _ _ _ distinct' => exact replaceAt_distinctKeys distinct' _ v distinct

theorem comesToSame_trans {v'' : Value} (h : ComesToSame SameReport s type v v')
    (h' : ComesToSame SameReport s type v' v'') : ComesToSame SameReport s type v v'' := by
  refine ⟨h.findings.trans h'.findings, fun hnone ↦ ?_⟩
  have hnone' : findings s v' type = [] := h.findings.nil_iff.1 hnone
  rw [h.normalForm hnone, h'.normalForm hnone']

variable [PatternEngine]

theorem Edit.comesToSame (hs : s.WellFormed) (h : Edit s type v v') (distinct : v.DistinctKeys) :
    ComesToSame SameReport s type v v' := by
  cases h with
  | reorder there perm =>
    have hkeys := (there.distinctKeys distinct).keys_nodup
    exact there.comesToSame local_sameReport (comesToSame_of_perm hkeys perm) type
  | undeclared visited isObject isOpen declared _ =>
    have hobject := comesToSame_of_declaredMembers isObject isOpen declared
    exact visited.comesToSame local_sameReport hs.fields_nodup hobject

theorem comesToSame_of_edits (hs : s.WellFormed) (distinct : v.DistinctKeys)
    (h : Relation.ReflTransGen (Edit s type) v v') :
    v'.DistinctKeys ∧ ComesToSame SameReport s type v v' := by
  induction h with
  | refl => exact ⟨distinct, .refl local_sameReport v⟩
  | tail _ edit ih =>
    -- Distinct keys go along, as reordering comes to the same for these only.
    obtain ⟨hdistinct, hsame⟩ := ih
    exact ⟨edit.distinctKeys hdistinct, comesToSame_trans hsame (edit.comesToSame hs hdistinct)⟩

end Edit

end Validation

namespace Root

variable {openByDefault : Bool} {source : Source} {s : Schema} {name : String} {r : Root}
  {v v' : Value}

theorem validates_iff_of_comesToSame (h : ComesToSame SameReport r.schema (.named r.id) v v')
    (n : Value) : r.findings v = [] ∧ r.normalForm v = n ↔
      r.findings v' = [] ∧ r.normalForm v' = n := by
  have hnil : r.findings v = [] ↔ r.findings v' = [] := h.findings.nil_iff
  rw [← hnil]
  refine and_congr_right fun hnone ↦ ?_
  have hnormal : r.normalForm v = r.normalForm v' := h.normalForm hnone
  rw [hnormal]

/-- Documents that differ in presentation only are accepted alike, with the same normal form, and
the same is wrong with them, but the unknown members of one object may be reported in another
order. -/
theorem presentation_changes_nothing [PatternEngine] (compiled : compile openByDefault source = .ok s)
    (root : s.root name = .ok r) (distinct : v.DistinctKeys)
    (edits : Relation.ReflTransGen (Edit s (.named r.id)) v v') :
    (∀ n, r.validate v = .ok n ↔ r.validate v' = .ok n) ∧
      (∀ n, r.validateAll v = .ok n ↔ r.validateAll v' = .ok n) ∧
      SameReport (r.report v) (r.report v') := by
  have hs := Blueprint.compile_wellFormed compiled
  obtain ⟨rfl, -, -⟩ := Schema.root_eq_ok root
  obtain ⟨-, hsame⟩ := comesToSame_of_edits hs distinct edits
  refine ⟨fun n ↦ ?_, fun n ↦ ?_, ?_⟩
  · rw [validate_eq_ok_iff, validate_eq_ok_iff]
    exact validates_iff_of_comesToSame hsame n
  · rw [validateAll_eq_ok_iff, validateAll_eq_ok_iff]
    exact validates_iff_of_comesToSame hsame n
  · rw [report_eq_findings, report_eq_findings]
    exact hsame.findings

def labelledBox (lid label : List (String × Value)) : List (String × Value) := [
  ("size", .number (.integer 1 one_inRange)),
  ("lid", .object lid),
  ("label", .object label),
  ("z", .null)]

/-- The label is turned round, the unknown member of the open lid replaced by another one, and the
members of the box are reversed. -/
theorem presentation_changes_nothing_labelledBox :
    let x : String × Value := ("x", .number (.integer 1 one_inRange))
    let before := labelledBox [x, ("y", .null)] [("text", .string "box"), ("size", .null)]
    let after := labelledBox [("u", .bool true), x] [("size", .null), ("text", .string "box")]
    let r : Root := ⟨boxSchema true, "Box", 0⟩
    ((compile true boxBlueprint = .ok (boxSchema true) ∧ (boxSchema true).root "Box" = .ok r) ∧
      (Value.object before).DistinctKeys ∧
      Relation.ReflTransGen (Edit (boxSchema true) (.named 0)) (.object before)
        (.object after.reverse)) ∧
    r.report (.object before) =
      [⟨[.field "label"], .unknownField⟩, ⟨[.field "z"], .unknownField⟩] ∧
    r.report (.object after.reverse) =
      [⟨[.field "z"], .unknownField⟩, ⟨[.field "label"], .unknownField⟩] ∧
    SameReport (r.report (.object before)) (r.report (.object after.reverse)) := by
  intro x before after r
  have hcompile := compile_boxBlueprint true
  have hroot : (boxSchema true).root "Box" = .ok r := rfl
  have hdistinct : (Value.object before).DistinctKeys := by simp [before, labelledBox, x]
  have hlid : ⟨"lid", .inline 1, true, none⟩ ∈ ((boxSchema true).definition 0).fields := by
    simp [boxSchema, Schema.definition]
  have hlabel : PartAt (.object [("text", .string "box"), ("size", .null)]) [.field "label"]
      (.object before) := .member rfl .here
  have hturned : Edit (boxSchema true) (.named 0) (.object before)
      (.object (labelledBox [x, ("y", .null)] [("size", .null), ("text", .string "box")])) :=
    .reorder hlabel (.swap ("size", Value.null) ("text", .string "box") [])
  have hvisited : Visited (boxSchema true) (.named 0)
      (.object (labelledBox [x, ("y", .null)] [("size", .null), ("text", .string "box")]))
      [.field "lid"] (.inline 1) (.object [x, ("y", .null)]) := .member rfl hlid rfl .here
  have hreplaced : Edit (boxSchema true) (.named 0)
      (.object (labelledBox [x, ("y", .null)] [("size", .null), ("text", .string "box")]))
      (.object after) :=
    .undeclared hvisited rfl rfl rfl (by simp [x])
  have hreversed : Edit (boxSchema true) (.named 0) (.object after) (.object after.reverse) :=
    .reorder .here (List.reverse_perm after).symm
  have hedits := ((Relation.ReflTransGen.single hturned).tail hreplaced).tail hreversed
  have hsame := presentation_changes_nothing hcompile hroot hdistinct hedits
  exact ⟨⟨⟨hcompile, hroot⟩, hdistinct, hedits⟩, by rfl, by rfl, hsame.2.2⟩

end Root

end DocumentSchema
