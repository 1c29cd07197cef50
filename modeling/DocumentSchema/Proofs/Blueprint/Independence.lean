import DocumentSchema.Pattern.Engine
import DocumentSchema.Proofs.Blueprint.Acceptance
import DocumentSchema.Proofs.Blueprint.Matching
import DocumentSchema.Proofs.Blueprint.Places

namespace DocumentSchema

theorem Schema.exists_rootId {s : Schema} {name : String} (h : name ∈ s.rootNames) :
    ∃ id, s.rootId name = .ok id ∧ (name, id) ∈ s.roots := by
  obtain ⟨id, hid⟩ := Json.mem_keys_iff.1 h
  exact ⟨id, by rw [rootId, hid], Json.mem_of_lookup hid⟩

theorem Schema.root_eq_ok_of_rootId {s : Schema} {name : String} {id : Nat}
    (h : s.rootId name = .ok id) : s.root name = .ok ⟨s, name, id⟩ := by
  rw [root, h]
  rfl

namespace Blueprint

section Meaning

variable {names names' : List String} {items items' : List Item}

variable [PatternEngine]

theorem BodyFits.mono {body : List Field} (h : BodyFits names body) (hsub : names ⊆ names') :
    BodyFits names' body where
  distinct := h.distinct
  each f hf :=
    { type := ⟨fun name hbase ↦ hsub ((h.each f hf).type.declared name hbase),
        (h.each f hf).type.constraints⟩
      default := (h.each f hf).default }

theorem Meaningful.of_perm (h : Meaningful items) (hperm : items.Perm items') :
    Meaningful items' := by
  have hdeclarations : (declarations items).Perm (declarations items') := hperm.filterMap _
  have hnames : (typeNames items).Perm (typeNames items') := hdeclarations.map _
  have hdesignations : (designations items).Perm (designations items') := hperm.filterMap _
  constructor
  case unreserved => exact fun name hname ↦ h.unreserved name (hnames.mem_iff.2 hname)
  case types_distinct => exact hnames.nodup_iff.1 h.types_distinct
  case bodies =>
    intro body hbody
    obtain ⟨d, hd, hbody⟩ := List.mem_flatMap.1 hbody
    have hmem : body ∈ allBodies items :=
      List.mem_flatMap.2 ⟨d, hdeclarations.mem_iff.2 hd, hbody⟩
    exact (h.bodies body hmem).mono hnames.subset
  case roots_declared =>
    exact fun root hroot ↦ hnames.mem_iff.1 (h.roots_declared root (hdesignations.mem_iff.2 hroot))
  case roots_distinct => exact (hdesignations.map _).nodup_iff.1 h.roots_distinct

variable {origin origin' : String} {openByDefault : Bool}

theorem exists_resolve_iff_unplaced : (∃ s, resolve origin openByDefault items = .ok s) ↔
    Meaningful (items.map Item.unplaced) :=
  (exists_congr fun _ ↦ resolve_unplaced_eq_ok_iff.symm).trans exists_resolve_iff

theorem exists_resolve_iff_of_perm
    (hperm : (items.map Item.unplaced).Perm (items'.map Item.unplaced)) :
    (∃ s, resolve origin openByDefault items = .ok s) ↔
      ∃ t, resolve origin' openByDefault items' = .ok t := by
  rw [exists_resolve_iff_unplaced, exists_resolve_iff_unplaced]
  exact ⟨fun h ↦ h.of_perm hperm, fun h ↦ h.of_perm hperm.symm⟩

end Meaning

section Roots

variable {origin origin' : String} {openByDefault : Bool} {items items' : List Item} {s t : Schema}
  {name : String}

/-- A name leads to a root of each of two schemas. The two roots give the same answer about every
value, and the same JSON Schema. -/
structure SameRoot (s t : Schema) (name : String) (r r' : Root) : Prop where
  root : s.root name = .ok r
  root' : t.root name = .ok r'
  validate : ∀ v, r.validate v = r'.validate v
  validateAll : ∀ v, r.validateAll v = r'.validateAll v
  jsonSchema : ∃ document, s.jsonSchema name = .ok document ∧ t.jsonSchema name = .ok document

variable [PatternEngine]

theorem exists_sameRoot (among : items ⊆ items')
    (hs : resolve origin openByDefault items = .ok s)
    (ht : resolve origin' openByDefault items' = .ok t)
    (hname : name ∈ (designations items).map (·.value)) : ∃ r r', SameRoot s t name r r' := by
  have wellFormed := resolve_wellFormed hs
  have wellFormed' := resolve_wellFormed ht
  have renders := resolve_renders hs
  have renders' := resolve_renders ht
  have hname' : name ∈ (designations items').map (·.value) :=
    List.map_subset _ (List.filterMap_subset _ among) hname
  obtain ⟨id, hid, hroot⟩ := Schema.exists_rootId (renders.rootNames ▸ hname)
  obtain ⟨id', hid', hroot'⟩ := Schema.exists_rootId (renders'.rootNames ▸ hname')
  have hdeclared := renders.roots _ hroot
  have hmatches : s.Matches t id id' := .declared hdeclared (renders'.roots _ hroot')
  have hcorrespondence := correspondence_of_matches wellFormed wellFormed' renders renders' among
    (resolve_ownedOnce hs) (resolve_ownedOnce ht)
  have hanswers (v : Json.Value) :
      (Root.mk s name id).validate v = (Root.mk t name id').validate v ∧
        (Root.mk s name id).validateAll v = (Root.mk t name id').validateAll v :=
    Root.answers_eq_of_run_eq fun mode ↦ hcorrespondence.run_eq hmatches mode v
  refine ⟨⟨s, name, id⟩, ⟨t, name, id'⟩, Schema.root_eq_ok_of_rootId hid,
    Schema.root_eq_ok_of_rootId hid', fun v ↦ (hanswers v).1, fun v ↦ (hanswers v).2, _,
    jsonSchema_eq_ok hid, ?_⟩
  have hlt := (List.getElem?_eq_some_iff.1 hdeclared).1
  rw [← jsonSchema_eq_ok hid]
  exact (hcorrespondence.jsonSchema_eq wellFormed wellFormed' hmatches
    (wellFormed.declared_iff.2 hlt) hid hid').symm

/-- If items resolve, and others with all of these among them, wherever they stand, then the roots of
the former are the same in both schemas. If they are the same items in another order, then they
resolve if the others do. -/
theorem resolve_indifferent_to_order (openByDefault : Bool) (origin origin' : String)
    (items items' : List Item) :
    (items.map Item.unplaced ⊆ items'.map Item.unplaced →
      ∀ s t, resolve origin openByDefault items = .ok s →
        resolve origin' openByDefault items' = .ok t →
        ∀ root ∈ designations items, ∃ r r', SameRoot s t root.value r r') ∧
    ((items.map Item.unplaced).Perm (items'.map Item.unplaced) →
      ((∃ s, resolve origin openByDefault items = .ok s) ↔
        ∃ t, resolve origin' openByDefault items' = .ok t)) := by
  refine ⟨fun among s t hs ht root hroot ↦ ?_, exists_resolve_iff_of_perm⟩
  refine exists_sameRoot among (resolve_unplaced_eq_ok_iff.2 hs) (resolve_unplaced_eq_ok_iff.2 ht) ?_
  rw [designations, filterMap_root?_unplaced, List.map_map]
  exact List.mem_map_of_mem hroot

end Roots

section Example

def pointItem (line : Nat) : Item :=
  .type ⟨⟨"Point", ⟨line, 6⟩⟩, false, none,
    [⟨⟨"x", ⟨line, 13⟩⟩, false, .scalar .number [], none⟩]⟩

def lineItem (line : Nat) : Item :=
  .type ⟨⟨"Line", ⟨line, 6⟩⟩, true, none,
    [⟨⟨"ends", ⟨line, 12⟩⟩, false, .array (.named ⟨"Point", ⟨line, 18⟩⟩), none⟩,
      ⟨⟨"style", ⟨line, 27⟩⟩, true, .inline none
        [⟨⟨"color", ⟨line, 37⟩⟩, false, .scalar .string [], none⟩], none⟩]⟩

theorem resolve_indifferent_to_order_lineItem :
    (∃ s t, resolve "a" false [lineItem 1, pointItem 2] = .ok s ∧
      resolve "b" false [.root ⟨"Point", ⟨1, 6⟩⟩, pointItem 2, lineItem 3] = .ok t ∧
      ∃ r r', SameRoot s t "Line" r r' ∧ r.id = 0 ∧ r'.id = 1) ∧
    ∃ t, resolve "c" false [pointItem 1, lineItem 2] = .ok t := by
  obtain ⟨hroots, -⟩ := resolve_indifferent_to_order false "a" "b" [lineItem 1, pointItem 2]
    [.root ⟨"Point", ⟨1, 6⟩⟩, pointItem 2, lineItem 3]
  obtain ⟨-, horder⟩ := resolve_indifferent_to_order false "a" "c" [lineItem 1, pointItem 2]
    [pointItem 1, lineItem 2]
  have among : [lineItem 3, pointItem 2].map Item.unplaced ⊆
      [.root ⟨"Point", ⟨1, 6⟩⟩, pointItem 2, lineItem 3].map Item.unplaced :=
    List.map_subset _ (by simp)
  refine ⟨⟨_, _, rfl, rfl, ?_⟩, (horder (.swap _ _ _)).1 ⟨_, rfl⟩⟩
  obtain ⟨r, r', hsame⟩ := hroots among _ _ rfl rfl
    ⟨"Line", ⟨1, 6⟩⟩ (List.mem_singleton_self _)
  have hroot := hsame.root
  have hroot' := hsame.root'
  refine ⟨r, r', hsame, ?_, ?_⟩
  · cases hroot
    rfl
  · cases hroot'
    rfl

end Example

end Blueprint

end DocumentSchema
