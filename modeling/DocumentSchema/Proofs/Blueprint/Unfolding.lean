import DocumentSchema.Pattern.Engine
import DocumentSchema.Proofs.Blueprint.Independence
import DocumentSchema.Proofs.Blueprint.Openness
import DocumentSchema.Proofs.Schema.Simulation
import Mathlib.Logic.Relation

namespace DocumentSchema.Blueprint

open Relation (ReflGen)

/-- One name of a declared type, somewhere in a type, gives way to the body of the declaration. -/
inductive UnfoldsType (d : TypeDeclaration) : TypeClause → TypeClause → Prop
  | here {name : Located String} (names : d.name.value = name.value) :
      UnfoldsType d (.named name) (.inline d.openness d.fields)
  | item {item item' : TypeClause} (inside : UnfoldsType d item item') :
      UnfoldsType d (.array item) (.array item')
  | field {openness : Option Openness} {before after : List Field} {field : Field}
      {type' : TypeClause} (inside : UnfoldsType d field.type type') :
      UnfoldsType d (.inline openness (before ++ field :: after))
        (.inline openness (before ++ { field with type := type' } :: after))

/-- One name of a declared type, somewhere in a declaration, gives way to the body that it names. The
body of the declaration changes as a type written in place with the same body does. -/
inductive Unfolds (d : TypeDeclaration) : List Item → List Item → Prop
  | intro {before after : List Item} {owner : TypeDeclaration} {fields : List Field}
      (declared : .type d ∈ before ++ .type owner :: after)
      (unfolds : UnfoldsType d (.inline owner.openness owner.fields)
        (.inline owner.openness fields)) :
      Unfolds d (before ++ .type owner :: after)
        (before ++ .type { owner with fields := fields } :: after)

variable {d d₁ : TypeDeclaration} {items items' written : List Item} {clause clause' : TypeClause}

section Meaning

variable {names : List String} {fields : List Field}

theorem bodiesWithin_cons (field : Field) (rest : List Field) :
    bodiesWithin (field :: rest) = field.type.bodies ++ bodiesWithin rest := rfl

theorem bodiesWithin_append (fields rest : List Field) :
    bodiesWithin (fields ++ rest) = bodiesWithin fields ++ bodiesWithin rest := by
  induction fields with
  | nil => rfl
  | cons field fields ih =>
    rw [List.cons_append, bodiesWithin_cons, bodiesWithin_cons, ih, List.append_assoc]

theorem Unfolds.declared (h : Unfolds d items items') : d ∈ declarations items := by
  cases h with
  | intro declared => exact mem_declarations_iff.2 declared

theorem Unfolds.typeNames (h : Unfolds d items items') : typeNames items' = typeNames items := by
  cases h with
  | intro => simp [Blueprint.typeNames, declarations, Item.declaration?]

theorem Unfolds.designations (h : Unfolds d items items') :
    designations items' = designations items := by
  cases h with
  | intro =>
    rw [Blueprint.designations, Blueprint.designations, List.filterMap_append,
      List.filterMap_append]
    rfl

variable [PatternEngine]

theorem FieldFits.of_unfolds {field : Field} {type' : TypeClause} (h : FieldFits names field)
    (unfolds : UnfoldsType d field.type type') (fits : TypeFits names type') :
    FieldFits names { field with type := type' } := by
  refine ⟨fits, fun literal given ↦ ?_⟩
  -- Only a scalar may have a default, and no name is unfolded in a scalar.
  obtain ⟨kind, clauses, hscalar, -⟩ := h.default literal given
  rw [hscalar] at unfolds
  cases unfolds

theorem UnfoldsType.fits (h : UnfoldsType d clause clause')
    (declared : ∀ body ∈ d.fields :: bodiesWithin d.fields, BodyFits names body)
    (fits : TypeFits names clause) (bodies : ∀ body ∈ clause.bodies, BodyFits names body) :
    TypeFits names clause' ∧ ∀ body ∈ clause'.bodies, BodyFits names body := by
  induction h with
  | here => exact ⟨⟨by simp [TypeClause.base], by simp [TypeClause.base]⟩, declared⟩
  | item _ ih =>
    obtain ⟨hitem, hbodies⟩ := ih ⟨fits.declared, fits.constraints⟩ bodies
    exact ⟨hitem.array, hbodies⟩
  | @field openness before after field type' inside ih =>
    obtain ⟨hbody, hwithin⟩ := List.forall_mem_cons.1 bodies
    rw [bodiesWithin_append, bodiesWithin_cons, List.forall_mem_append,
      List.forall_mem_append] at hwithin
    obtain ⟨hbefore, hinside, hafter⟩ := hwithin
    obtain ⟨hfits, hfields⟩ := List.forall_mem_append.1 hbody.each
    obtain ⟨hfield, hrest⟩ := List.forall_mem_cons.1 hfields
    obtain ⟨htype, hbodies⟩ := ih hfield.type hinside
    refine ⟨⟨by simp [TypeClause.base], by simp [TypeClause.base]⟩,
      List.forall_mem_cons.2 ⟨⟨?distinct, ?each⟩, ?within⟩⟩
    case distinct => simpa using hbody.distinct
    case each =>
      refine List.forall_mem_append.2 ⟨hfits, List.forall_mem_cons.2 ⟨?_, hrest⟩⟩
      exact hfield.of_unfolds inside htype
    case within =>
      rw [bodiesWithin_append, bodiesWithin_cons, List.forall_mem_append, List.forall_mem_append]
      exact ⟨hbefore, hbodies, hafter⟩

theorem Meaningful.unfolds (h : Meaningful items) (unfolds : Unfolds d items items') :
    Meaningful items' := by
  have hown : ∀ d₁ ∈ declarations items, ∀ body ∈ d₁.fields :: bodiesWithin d₁.fields,
      BodyFits (typeNames items) body :=
    fun d₁ hd₁ body hbody ↦ h.bodies body (List.mem_flatMap.2 ⟨d₁, hd₁, hbody⟩)
  constructor
  case unreserved => rw [unfolds.typeNames]; exact h.unreserved
  case types_distinct => rw [unfolds.typeNames]; exact h.types_distinct
  case roots_declared => rw [unfolds.typeNames, unfolds.designations]; exact h.roots_declared
  case roots_distinct => rw [unfolds.designations]; exact h.roots_distinct
  case bodies =>
    rw [unfolds.typeNames]
    intro body hbody
    obtain ⟨d₁, hd₁, hin⟩ := List.mem_flatMap.1 hbody
    have hd := hown d unfolds.declared
    cases unfolds with
    | @intro before after owner fields _ changed =>
      have howner : owner ∈ declarations (before ++ .type owner :: after) :=
        mem_declarations_iff.2 (by simp)
      rw [mem_declarations_iff, List.mem_append, List.mem_cons] at hd₁
      rcases hd₁ with hbefore | hsame | hafter
      · exact hown d₁ (mem_declarations_iff.2 (by simp [hbefore])) body hin
      · cases hsame
        have hinline : TypeFits (typeNames (before ++ .type owner :: after))
            (.inline owner.openness owner.fields) :=
          ⟨by simp [TypeClause.base], by simp [TypeClause.base]⟩
        exact (changed.fits hd hinline (hown owner howner)).2 body hin
      · exact hown d₁ (mem_declarations_iff.2 (by simp [hafter])) body hin

end Meaning

section Bodies

variable {openness : Option Openness} {fields fields' : List Field}

theorem Unfolds.exists_declaration (h : Unfolds d items items') (hd₁ : d₁ ∈ declarations items) :
    ∃ d₂ ∈ declarations items', d₂.name = d₁.name ∧ d₂.openness = d₁.openness ∧
      ReflGen (UnfoldsType d) (.inline d₁.openness d₁.fields) (.inline d₁.openness d₂.fields) := by
  cases h with
  | @intro before after owner fields _ changed =>
    rw [mem_declarations_iff, List.mem_append, List.mem_cons] at hd₁
    rcases hd₁ with hbefore | hsame | hafter
    · exact ⟨d₁, mem_declarations_iff.2 (by simp [hbefore]), rfl, rfl, .refl⟩
    · cases hsame
      exact ⟨{ d₁ with fields := fields }, mem_declarations_iff.2 (by simp), rfl, rfl,
        .single changed⟩
    · exact ⟨d₁, mem_declarations_iff.2 (by simp [hafter]), rfl, rfl, .refl⟩

theorem body?_of_unfolds (distinct : (typeNames items).Nodup) (unfolds : Unfolds d items items')
    (h : ReflGen (UnfoldsType d) clause clause')
    (hbody : body? items clause = some (openness, fields)) :
    ∃ fields', body? items' clause' = some (openness, fields') ∧
      ReflGen (UnfoldsType d) (.inline openness fields) (.inline openness fields') := by
  cases h with
  | refl =>
    cases clause with
    | named name =>
      obtain ⟨d₁, hfound, heq⟩ := Option.map_eq_some_iff.1 hbody
      cases heq
      have hname : d₁.name.value = name.value := by simpa using List.find?_some hfound
      obtain ⟨d₂, hd₂, hname₂, hopenness, hchanged⟩ :=
        unfolds.exists_declaration (List.mem_of_find?_eq_some hfound)
      refine ⟨d₂.fields, ?_, hchanged⟩
      rw [body?_named (unfolds.typeNames ▸ distinct) hd₂ (by rw [hname₂, hname]), hopenness]
    | inline =>
      cases hbody
      exact ⟨fields, rfl, .refl⟩
    | scalar | array => cases hbody
  | single h =>
    cases h with
    | here names =>
      rw [body?_named distinct unfolds.declared names] at hbody
      cases hbody
      exact ⟨d.fields, rfl, .refl⟩
    | item => cases hbody
    | field inside =>
      cases hbody
      exact ⟨_, rfl, .single (.field inside)⟩

structure FieldUnfolds (d : TypeDeclaration) (field field' : Field) : Prop where
  type : ReflGen (UnfoldsType d) field.type field'.type
  rest : field' = { field with type := field'.type }

theorem fields_of_unfolds
    (h : ReflGen (UnfoldsType d) (.inline openness fields) (.inline openness fields')) :
    List.Forall₂ (FieldUnfolds d) fields fields' := by
  have hsame (fields : List Field) : List.Forall₂ (FieldUnfolds d) fields fields :=
    List.forall₂_same.2 fun _ _ ↦ ⟨.refl, rfl⟩
  cases h with
  | refl => exact hsame fields
  | single h =>
    cases h with
    | field inside => exact List.rel_append (hsame _) (.cons ⟨.single inside, rfl⟩ (hsame _))

end Bodies

section Schemas

variable {s t : Schema} {openByDefault : Bool} {type type' : FieldType}

variable [PatternEngine]

def RendersUnfolded (s t : Schema) (openByDefault : Bool) (d : TypeDeclaration) (id id' : Nat) :
    Prop :=
  ∃ openness fields fields', RendersBody s openByDefault openness fields (s.definition id) ∧
    RendersBody t openByDefault openness fields' (t.definition id') ∧
    ReflGen (UnfoldsType d) (.inline openness fields) (.inline openness fields')

theorem RendersType.exists_objectId? (h : RendersType s openByDefault clause type)
    {body : Option Openness × List Field} (hbody : body? items clause = some body) :
    ∃ id, type.objectId? = some id := by
  cases h with
  | scalar | array => cases hbody
  | named | inline => exact ⟨_, rfl⟩

section Mirrors

variable (hs : s.WellFormed) (ht : t.WellFormed) (renders : Renders s openByDefault items)
  (renders' : Renders t openByDefault items') (unfolds : Unfolds d items items')
include hs ht renders renders' unfolds

theorem RendersType.mirrors (h : RendersType s openByDefault clause type)
    (h' : RendersType t openByDefault clause' type')
    (changed : ReflGen (UnfoldsType d) clause clause') :
    type.Mirrors (RendersUnfolded s t openByDefault d) type' := by
  induction type generalizing clause clause' type' with
  | scalar =>
    cases h
    cases changed with
    | refl =>
      cases h'
      exact .scalar _
    | single changed => cases changed
  | array item ih =>
    cases h with
    | array rendered =>
      cases changed with
      | refl =>
        cases h' with
        | array rendered' => exact .array (ih rendered rendered' .refl)
      | single changed =>
        cases changed with
        | item inside =>
          cases h' with
          | array rendered' => exact .array (ih rendered rendered' (.single inside))
  | named id | inline id =>
    have hdistinct : (typeNames items).Nodup := renders.typeNames ▸ hs.names_nodup
    obtain ⟨openness, fields, hbody, hrendered⟩ := h.exists_body? hs renders rfl
    obtain ⟨fields', hbody', hchanged⟩ := body?_of_unfolds hdistinct unfolds changed hbody
    obtain ⟨id', isObject'⟩ := h'.exists_objectId? hbody'
    obtain ⟨_, _, hbody'', hrendered'⟩ := h'.exists_body? ht renders' isObject'
    cases hbody'.symm.trans hbody''
    exact .object rfl isObject' ⟨openness, fields, fields', hrendered, hrendered', hchanged⟩

theorem RendersFields.mirrors {fields fields' : List Field} {fs fs' : List FieldDefinition}
    (h : RendersFields s openByDefault fields fs) (h' : RendersFields t openByDefault fields' fs')
    (changed : List.Forall₂ (FieldUnfolds d) fields fields') :
    List.Forall₂ (FieldDefinition.Mirrors (RendersUnfolded s t openByDefault d)) fs fs' := by
  induction changed generalizing fs fs' with
  | nil =>
    cases h
    cases h'
    exact .nil
  | cons first _ ih =>
    cases h with
    | cons name type required default rendered =>
      cases h' with
      | cons name' type' required' default' rendered' =>
        refine .cons ⟨?_, ?_, ?_, ?_⟩ (ih rendered rendered')
        · rw [name, name', first.rest]
        · exact type.mirrors hs ht renders renders' unfolds type' first.type
        · rw [required, required', first.rest]
        · rw [default, default', first.rest]

theorem simulation_of_unfolds : s.Simulation t (RendersUnfolded s t openByDefault d) := by
  rintro id id' ⟨openness, fields, fields', hbody, hbody', changed⟩
  refine ⟨hbody.closed.trans hbody'.closed.symm, ?_⟩
  exact hbody.fields.mirrors hs ht renders renders' unfolds hbody'.fields
    (fields_of_unfolds changed)

end Mirrors

/-- A declared type and its body written in place are interchangeable: if a name of the type in some
field, under any number of brackets and inside of any types written in place, gives way to the body,
then the items still resolve, wherever their parts then stand, to the same roots, which answer alike
about every value. -/
theorem named_type_interchangeable_with_body {origin origin' : String}
    (resolved : resolve origin openByDefault items = .ok s) (unfolds : Unfolds d items items')
    (same : written.map Item.unplaced = items'.map Item.unplaced) :
    ∃ t, resolve origin' openByDefault written = .ok t ∧ t.rootNames = s.rootNames ∧
      ∀ name ∈ s.rootNames, ∃ r r', s.root name = .ok r ∧ t.root name = .ok r' ∧
        ∀ v, r.validate v = r'.validate v ∧ r.validateAll v = r'.validateAll v := by
  have hmeaningful : Meaningful items' := (resolve_meaningful resolved).unfolds unfolds
  obtain ⟨t, ht⟩ : ∃ t, resolve origin' openByDefault items' = .ok t :=
    exists_resolve_iff.2 hmeaningful
  have hwritten : resolve origin' openByDefault written = .ok t := by
    rw [← resolve_unplaced_eq_ok_iff, same, resolve_unplaced_eq_ok_iff]
    exact ht
  have wellFormed := resolve_wellFormed resolved
  have wellFormed' := resolve_wellFormed ht
  have renders := resolve_renders resolved
  have renders' := resolve_renders ht
  have hnames : t.rootNames = s.rootNames := by
    rw [renders.rootNames, renders'.rootNames, unfolds.designations]
  refine ⟨t, hwritten, hnames, fun name hname ↦ ?_⟩
  obtain ⟨id, hid, hroot⟩ := Schema.exists_rootId hname
  obtain ⟨id', hid', hroot'⟩ := Schema.exists_rootId (hnames ▸ hname)
  have hnamed : RendersType s openByDefault (.named ⟨name, .start⟩) (.named id) :=
    .named (renders.roots _ hroot)
  have hnamed' : RendersType t openByDefault (.named ⟨name, .start⟩) (.named id') :=
    .named (renders'.roots _ hroot')
  have hmirrors :=
    hnamed.mirrors wellFormed wellFormed' renders renders' unfolds hnamed' .refl
  have hsimulation := simulation_of_unfolds wellFormed wellFormed' renders renders' unfolds
  refine ⟨⟨s, name, id⟩, ⟨t, name, id'⟩, Schema.root_eq_ok_of_rootId hid,
    Schema.root_eq_ok_of_rootId hid', fun v ↦ Root.answers_eq_of_run_eq fun mode ↦ ?_⟩
  exact hsimulation.run_eq hmirrors mode v

end Schemas

def treeBody (line : Nat) (branch : TypeClause) : List Field :=
  [⟨⟨"label", ⟨line, 14⟩⟩, false, .scalar .string [], none⟩,
    ⟨⟨"branches", ⟨line, 29⟩⟩, false, .array branch, none⟩]

def treeDeclaration (line : Nat) (branch : TypeClause) : TypeDeclaration :=
  ⟨⟨"Tree", ⟨line, 6⟩⟩, true, none, treeBody line branch⟩

/-- A tree has its own type written out for its branches, on a line of its own. -/
theorem named_type_interchangeable_with_body_tree :
    let tree : TypeClause := .named ⟨"Tree", ⟨1, 39⟩⟩
    ∃ s t, resolve "a" false [.type (treeDeclaration 1 tree)] = .ok s ∧
      Unfolds (treeDeclaration 1 tree) [.type (treeDeclaration 1 tree)]
        [.type (treeDeclaration 1 (.inline none (treeBody 1 tree)))] ∧
      resolve "b" false [.type (treeDeclaration 1 (.inline none (treeBody 2 tree)))] = .ok t ∧
      s.typeCount = 1 ∧ t.typeCount = 2 ∧
      ∃ r r', s.root "Tree" = .ok r ∧ t.root "Tree" = .ok r' ∧
        ∀ v, r.validate v = r'.validate v ∧ r.validateAll v = r'.validateAll v := by
  intro tree
  let label : Field := ⟨⟨"label", ⟨1, 14⟩⟩, false, .scalar .string [], none⟩
  let branches : Field := ⟨⟨"branches", ⟨1, 29⟩⟩, false, .array tree, none⟩
  have hchanged : UnfoldsType (treeDeclaration 1 tree) (.inline none ([label] ++ branches :: []))
      (.inline none ([label] ++
        { branches with type := .array (.inline none (treeBody 1 tree)) } :: [])) :=
    .field (.item (.here rfl))
  have hunfolds : Unfolds (treeDeclaration 1 tree) ([] ++ .type (treeDeclaration 1 tree) :: [])
      ([] ++ .type (treeDeclaration 1 (.inline none (treeBody 1 tree))) :: []) :=
    .intro (List.mem_singleton_self _) hchanged
  have hresolved : resolve "a" false [.type (treeDeclaration 1 tree)] = .ok _ := rfl
  have hplaces : [Item.type (treeDeclaration 1 (.inline none (treeBody 2 tree)))].map
      Item.unplaced = [Item.type (treeDeclaration 1 (.inline none (treeBody 1 tree)))].map
        Item.unplaced := rfl
  obtain ⟨t, ht, -, hroots⟩ := named_type_interchangeable_with_body hresolved hunfolds hplaces
  have hcount : t.typeCount = 2 := by
    cases ht
    rfl
  exact ⟨_, t, hresolved, hunfolds, ht, rfl, hcount, hroots "Tree" (List.mem_singleton_self _)⟩

end DocumentSchema.Blueprint
