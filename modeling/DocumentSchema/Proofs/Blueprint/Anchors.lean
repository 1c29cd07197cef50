import DocumentSchema.Proofs.Blueprint.Grammar
import DocumentSchema.Proofs.Blueprint.Meaningful

namespace DocumentSchema.Blueprint

/-- A part of a declaration that is one token: a word, the name of a field, or a literal. -/
inductive Anchor where
  | word (text : String)
  | label (text : String)
  | literal (value : Literal)

def Anchor.IsToken : Anchor → Token → Prop
  | .word text, t => t = .word text
  | .label text, t => t = .word text ∨ t = .string text
  | .literal value, t => Parser.literal? t = some value

def Located.asWord (name : Located String) : Located Anchor := ⟨.word name.value, name.location⟩

def Located.asLabel (name : Located String) : Located Anchor := ⟨.label name.value, name.location⟩

def Located.asLiteral (literal : Located Literal) : Located Anchor :=
  ⟨.literal literal.value, literal.location⟩

def ConstraintClause.anchors (clause : ConstraintClause) : List (Located Anchor) :=
  [clause.key.asWord, clause.literal.asLiteral]

mutual

def TypeClause.anchors : TypeClause → List (Located Anchor)
  | .scalar _ clauses => clauses.flatMap ConstraintClause.anchors
  | .named name => [name.asWord]
  | .inline _ fields => anchorsWithin fields
  | .array item => item.anchors

def anchorsWithin : List Field → List (Located Anchor)
  | [] => []
  | ⟨name, _, type, default⟩ :: rest =>
    name.asLabel :: (type.anchors ++ (default.toList.map Located.asLiteral ++ anchorsWithin rest))

end

def Item.anchors : Item → List (Located Anchor)
  | .type d => d.name.asWord :: anchorsWithin d.fields
  | .root name => [name.asWord]

/-- Tokens among which the anchors stand in their order. -/
inductive Shows : List (Located Token) → List (Located Anchor) → Prop
  | nil : Shows [] []
  | skip {t : Located Token} {ts : List (Located Token)} {anchors : List (Located Anchor)}
      (others : Shows ts anchors) : Shows (t :: ts) anchors
  | cons {t : Located Token} {ts : List (Located Token)} {anchor : Located Anchor}
      {anchors : List (Located Anchor)} (isToken : anchor.value.IsToken t.value)
      (isPlace : anchor.location = t.location) (others : Shows ts anchors) :
      Shows (t :: ts) (anchor :: anchors)

section Shows

variable {ts us : List (Located Token)} {as bs : List (Located Anchor)} {a b : Located Anchor}

theorem Shows.none (ts : List (Located Token)) : Shows ts [] := by
  induction ts with
  | nil => exact .nil
  | cons t ts ih => exact .skip ih

theorem Shows.append (h : Shows ts as) (h' : Shows us bs) : Shows (ts ++ us) (as ++ bs) := by
  induction h with
  | nil => exact h'
  | skip _ ih => exact .skip ih
  | cons isToken isPlace _ ih => exact .cons isToken isPlace ih

theorem Shows.sublist (h : Shows ts as) (hsub : bs.Sublist as) : Shows ts bs := by
  induction h generalizing bs with
  | nil =>
    obtain rfl := List.sublist_nil.1 hsub
    exact .nil
  | skip _ ih => exact .skip (ih hsub)
  | cons isToken isPlace _ ih =>
    cases hsub with
    | cons _ hsub => exact .skip (ih hsub)
    | cons_cons _ hsub => exact .cons isToken isPlace (ih hsub)

theorem Shows.exists_one (h : Shows ts (a :: as)) :
    ∃ t ∈ ts, a.value.IsToken t.value ∧ a.location = t.location := by
  generalize hanchors : a :: as = anchors at h
  induction h with
  | nil => cases hanchors
  | skip _ ih =>
    obtain ⟨t, ht, hanchor⟩ := ih hanchors
    exact ⟨t, List.mem_cons_of_mem _ ht, hanchor⟩
  | cons isToken isPlace _ _ =>
    cases hanchors
    exact ⟨_, List.mem_cons_self, isToken, isPlace⟩

theorem Shows.exists_two (h : Shows ts [a, b]) : ∃ t u, [t, u].Sublist ts ∧
    (a.value.IsToken t.value ∧ a.location = t.location) ∧
      b.value.IsToken u.value ∧ b.location = u.location := by
  generalize hanchors : [a, b] = anchors at h
  induction h with
  | nil => cases hanchors
  | skip _ ih =>
    obtain ⟨t, u, hsub, hboth⟩ := ih hanchors
    exact ⟨t, u, hsub.cons _, hboth⟩
  | cons isToken isPlace others _ =>
    cases hanchors
    obtain ⟨u, hu, hsecond⟩ := others.exists_one
    exact ⟨_, u, (List.singleton_sublist.2 hu).cons_cons _, ⟨isToken, isPlace⟩, hsecond⟩

end Shows

section Grammar

variable {ts : List (Located Token)}

theorem shows_literal {t : Located Token} {literal : Located Literal} (h : WritesLiteral t literal) :
    Shows [t] [literal.asLiteral] := by
  obtain ⟨hvalue, hplace⟩ := writesLiteral_iff.1 h
  exact .cons hvalue hplace .nil

theorem shows_constraint {clause : ConstraintClause} (h : WritesConstraint ts clause) :
    Shows ts clause.anchors := by
  cases h with
  | mk value => exact .cons rfl rfl (.skip (shows_literal value))

theorem shows_constraints {clauses : List ConstraintClause} (h : WritesConstraints ts clauses) :
    Shows ts (clauses.flatMap ConstraintClause.anchors) := by
  induction h with
  | close place => exact .none _
  | last first place =>
    rw [List.flatMap_singleton]
    have hall := (shows_constraint first).append (.none [mark .closeParenthesis place])
    rwa [List.append_nil] at hall
  | cons first comma others ih =>
    rw [List.flatMap_cons]
    exact (shows_constraint first).append (.skip ih)

theorem shows_head {head : Parser.FieldHead} (h : WritesHead ts head) :
    Shows ts [head.name.asLabel] := by
  induction h with
  | bare name => exact .cons (.inl rfl) rfl .nil
  | quoted name => exact .cons (.inr rfl) rfl .nil
  | optional place named ih => exact .skip ih

theorem shows_default {default : Option (Located Literal)} (h : WritesDefault ts default) :
    Shows ts (default.toList.map Located.asLiteral) := by
  cases h with
  | absent => exact .nil
  | stated equals value => exact .skip (shows_literal value)

mutual

theorem shows_type {ts : List (Located Token)} (type : TypeClause) (h : WritesType ts type) :
    Shows ts type.anchors := by
  cases h with
  | scalar isKind place => exact .none _
  | constrained isKind place opening constraints => exact .skip (.skip (shows_constraints constraints))
  | named isNoKind => exact .cons rfl rfl .nil
  | inline qualified opening content => exact (Shows.none _).append (.skip (shows_fields _ content))
  | array element opening closing =>
    have hall := (shows_type _ element).append (.none [mark .openBracket opening, mark .closeBracket closing])
    rwa [List.append_nil] at hall

theorem shows_fields {ts : List (Located Token)} (fields : List Field) (h : WritesFields ts fields) :
    Shows ts (anchorsWithin fields) := by
  cases h with
  | close place => exact .none _
  | @cons _ _ _ comma _ _ _ _ _ named colon typed defaulted separated others =>
    have hothers := (Shows.none comma).append (shows_fields _ others)
    exact (shows_head named).append
      (.skip ((shows_type _ typed).append ((shows_default defaulted).append hothers)))

end

theorem shows_item {item : Item} (h : WritesItem ts item) : Shows ts item.anchors := by
  cases h with
  | type qualified isRoot place name opening content =>
    exact (Shows.none _).append (.skip (.cons rfl rfl (.skip (shows_fields _ content))))
  | root place name ended => exact .skip (.cons rfl rfl (.none _))

theorem shows_items {items : List Item} (h : WritesItems ts items) :
    Shows ts (items.flatMap Item.anchors) := by
  induction h with
  | nil => exact .nil
  | cons first others ih => exact (shows_item first).append ih

end Grammar

section Sublists

variable {items : List Item} {body fields : List Field} {f : Field}

theorem sublist_flatMap {α β : Type} {f : α → List β} {l : List α} {a : α} (h : a ∈ l) :
    (f a).Sublist (l.flatMap f) := by
  obtain ⟨before, after, rfl⟩ := List.append_of_mem h
  rw [List.flatMap_append, List.flatMap_cons]
  exact (List.sublist_append_left _ _).trans (List.sublist_append_right _ _)

theorem labels_sublist (fields : List Field) :
    (fields.map (·.name.asLabel)).Sublist (anchorsWithin fields) := by
  induction fields with
  | nil => exact .slnil
  | cons field rest ih =>
    refine List.Sublist.cons_cons _ ?_
    exact (ih.trans (List.sublist_append_right _ _)).trans (List.sublist_append_right _ _)

theorem type_sublist (h : f ∈ fields) : f.type.anchors.Sublist (anchorsWithin fields) := by
  induction fields with
  | nil => cases h
  | cons field rest ih =>
    refine List.Sublist.cons _ ?_
    rcases List.mem_cons.1 h with rfl | h
    · exact List.sublist_append_left _ _
    · exact ((ih h).trans (List.sublist_append_right _ _)).trans (List.sublist_append_right _ _)

theorem default_sublist {literal : Located Literal} (h : f ∈ fields) (hdefault : f.default = some literal) :
    [literal.asLiteral].Sublist (anchorsWithin fields) := by
  induction fields with
  | nil => cases h
  | cons field rest ih =>
    refine List.Sublist.cons _ ?_
    rcases List.mem_cons.1 h with rfl | h
    · have hself : (f.default.toList.map Located.asLiteral).Sublist
          (f.default.toList.map Located.asLiteral ++ anchorsWithin rest) :=
        List.sublist_append_left _ _
      rw [hdefault] at hself
      refine List.Sublist.trans ?_ (List.sublist_append_right _ _)
      rwa [hdefault]
    · exact ((ih h).trans (List.sublist_append_right _ _)).trans (List.sublist_append_right _ _)

theorem anchors_base (type : TypeClause) : type.base.anchors = type.anchors := by
  match type with
  | .array item => exact anchors_base item
  | .scalar _ _ | .named _ | .inline _ _ => rfl

theorem keys_sublist (clauses : List ConstraintClause) :
    (clauses.map (·.key.asWord)).Sublist (clauses.flatMap ConstraintClause.anchors) := by
  induction clauses with
  | nil => exact .slnil
  | cons clause rest ih => exact (ih.cons _).cons_cons _

mutual

theorem bodies_sublist (type : TypeClause) (h : body ∈ type.bodies) :
    (anchorsWithin body).Sublist type.anchors := by
  match type, h with
  | .inline _ fields, h =>
    rcases List.mem_cons.1 h with rfl | h
    · exact .refl _
    · exact bodiesWithin_sublist fields h
  | .array item, h => exact bodies_sublist item h

theorem bodiesWithin_sublist (fields : List Field) (h : body ∈ bodiesWithin fields) :
    (anchorsWithin body).Sublist (anchorsWithin fields) := by
  match fields, h with
  | ⟨_, _, type, _⟩ :: rest, h =>
    refine List.Sublist.cons _ ?_
    rcases List.mem_append.1 h with h | h
    · exact (bodies_sublist type h).trans (List.sublist_append_left _ _)
    · refine (bodiesWithin_sublist rest h).trans (List.Sublist.trans ?_ (List.sublist_append_right _ _))
      exact List.sublist_append_right _ _

end

theorem body_sublist (h : body ∈ allBodies items) :
    (anchorsWithin body).Sublist (items.flatMap Item.anchors) := by
  obtain ⟨d, hd, hbody⟩ := List.mem_flatMap.1 h
  have hfields : (anchorsWithin body).Sublist (anchorsWithin d.fields) := by
    rcases List.mem_cons.1 hbody with rfl | hbody
    · exact .refl _
    · exact bodiesWithin_sublist _ hbody
  have hitem : (Item.type d).anchors.Sublist (items.flatMap Item.anchors) :=
    sublist_flatMap (mem_declarations_iff.1 hd)
  exact (hfields.cons d.name.asWord).trans hitem

theorem declared_sublist (items : List Item) :
    ((declarations items).map (·.name.asWord)).Sublist (items.flatMap Item.anchors) := by
  induction items with
  | nil => exact .slnil
  | cons item rest ih =>
    have hrest (anchors : List (Located Anchor)) := ih.trans (List.sublist_append_right anchors _)
    cases item with
    | type d => exact (hrest _).cons_cons _
    | root name => exact hrest _

theorem designated_sublist (items : List Item) :
    ((designations items).map Located.asWord).Sublist (items.flatMap Item.anchors) := by
  induction items with
  | nil => exact .slnil
  | cons item rest ih =>
    have hrest (anchors : List (Located Anchor)) := ih.trans (List.sublist_append_right anchors _)
    cases item with
    | type d =>
      obtain ⟨name, isRoot, openness, fields⟩ := d
      cases isRoot with
      | false => exact hrest _
      | true => exact (hrest _).cons_cons _
    | root name => exact (hrest []).cons_cons _

end Sublists

end DocumentSchema.Blueprint
