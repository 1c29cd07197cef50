import DocumentSchema.Proofs.Blueprint.Grammar
import DocumentSchema.Proofs.Except

namespace DocumentSchema.Blueprint.Parser

/-- The tokens lead from a state to another one, if a token of some sort follows. -/
def Leads (follow : Token → Prop) (s : State) (ts : List (Located Token)) (s' : State) : Prop :=
  ∀ t rest, follow t.value → (ts ++ t :: rest).foldlM step s = (t :: rest).foldlM step s'

/-- One of the tokens opens a body or a pair of brackets too many. -/
def Refuses (s : State) (ts : List (Located Token)) : Prop :=
  ∃ t ∈ ts, (t.value = .punctuation .openBrace ∨ t.value = .punctuation .openBracket) ∧
    ts.foldlM step s = .error ⟨.tooDeep, t.location⟩

/-- What comes of the tokens of a part, depending on whether the part is shallow. -/
structure Outcome (shallow : Prop) (follow : Token → Prop) (s : State) (ts : List (Located Token))
    (s' : State) : Prop where
  leads : shallow → Leads follow s ts s'
  refuses : ¬ shallow → Refuses s ts

def AnyToken (_ : Token) : Prop := True

/-- There is a first token, and it is of some sort. -/
def Begins (sort : Token → Prop) (ts : List (Located Token)) : Prop :=
  ∃ t us, ts = t :: us ∧ sort t.value

section Composition

variable {follow follow' sort : Token → Prop} {s s' s'' : State} {t : Located Token}
  {ts us : List (Located Token)} {shallow shallow' : Prop}

theorem Begins.cons (h : sort t.value) : Begins sort (t :: us) := ⟨t, us, rfl, h⟩

theorem Begins.append (h : Begins sort ts) : Begins sort (ts ++ us) := by
  obtain ⟨t, rest, rfl, ht⟩ := h
  exact .cons ht

theorem Begins.mono {sort' : Token → Prop} (h : Begins sort ts) (hsort : ∀ t, sort t → sort' t) :
    Begins sort' ts := by
  obtain ⟨t, us, rfl, ht⟩ := h
  exact .cons (hsort _ ht)

theorem Begins.any (h : Begins sort ts) : Begins AnyToken ts := h.mono fun _ _ ↦ trivial

theorem Leads.of_step (s' : State) (h : step s t = .ok s')
    (same : ∀ u, follow u.value → step s' u = step s'' u) : Leads follow s [t] s'' := by
  intro u rest hu
  rw [List.singleton_append, List.foldlM_cons, h]
  change (u :: rest).foldlM step s' = _
  rw [List.foldlM_cons, List.foldlM_cons, same u hu]

theorem Leads.one (h : step s t = .ok s') : Leads AnyToken s [t] s' :=
  .of_step s' h fun _ _ ↦ rfl

theorem Leads.same (h : ∀ t, follow t.value → step s t = step s' t) : Leads follow s [] s' := by
  intro t rest ht
  rw [List.nil_append, List.foldlM_cons, List.foldlM_cons, h t ht]

theorem Leads.mono (h : Leads follow s ts s') (hfollow : ∀ t, follow' t → follow t) :
    Leads follow' s ts s' := fun t rest ht ↦ h t rest (hfollow _ ht)

theorem Leads.trans (h : Leads follow s ts s') (begins : Begins follow us)
    (h' : Leads follow' s' us s'') : Leads follow' s (ts ++ us) s'' := by
  obtain ⟨t, rest, rfl, ht⟩ := begins
  intro u more hu
  rw [List.append_assoc, List.cons_append, h t _ ht]
  exact h' u more hu

theorem Leads.cons (s' : State) (h : step s t = .ok s') (h' : Leads follow s' us s'') :
    Leads follow s (t :: us) s'' := by
  intro u rest hu
  rw [List.cons_append, List.foldlM_cons, h]
  exact h' u rest hu

theorem Leads.refuses (h : Leads follow s ts s') (begins : Begins follow us) (h' : Refuses s' us) :
    Refuses s (ts ++ us) := by
  obtain ⟨t, rest, rfl, ht⟩ := begins
  obtain ⟨u, hu, hvalue, hfails⟩ := h'
  refine ⟨u, List.mem_append_right _ hu, hvalue, ?_⟩
  rw [h t rest ht, hfails]

theorem Refuses.append (h : Refuses s ts) : Refuses s (ts ++ us) := by
  obtain ⟨t, ht, hvalue, hfails⟩ := h
  refine ⟨t, List.mem_append_left _ ht, hvalue, ?_⟩
  rw [List.foldlM_append, hfails]
  rfl

theorem Leads.outcome (h : Leads follow s ts s') (begins : Begins follow us)
    (h' : Outcome shallow follow' s' us s'') : Outcome shallow follow' s (ts ++ us) s'' where
  leads hshallow := h.trans begins (h'.leads hshallow)
  refuses hdeep := h.refuses begins (h'.refuses hdeep)

theorem Outcome.of_leads (hshallow : shallow) (h : Leads follow s ts s') :
    Outcome shallow follow s ts s' where
  leads _ := h
  refuses hdeep := absurd hshallow hdeep

theorem Outcome.mono (h : Outcome shallow follow s ts s') (hfollow : ∀ t, follow' t → follow t) :
    Outcome shallow follow' s ts s' where
  leads hshallow := (h.leads hshallow).mono hfollow
  refuses := h.refuses

theorem Outcome.cons (s' : State) (h : step s t = .ok s') (begins : Begins AnyToken us)
    (h' : Outcome shallow follow s' us s'') : Outcome shallow follow s (t :: us) s'' :=
  (Leads.one h).outcome begins h'

theorem Outcome.append (h : Outcome shallow follow s ts s') (begins : Begins follow us)
    (h' : Leads follow' s' us s'') : Outcome shallow follow' s (ts ++ us) s'' where
  leads hshallow := (h.leads hshallow).trans begins h'
  refuses hdeep := (h.refuses hdeep).append

theorem Outcome.trans (h : Outcome shallow follow s ts s') (begins : Begins follow us)
    (h' : shallow → Outcome shallow' follow' s' us s'') :
    Outcome (shallow ∧ shallow') follow' s (ts ++ us) s'' where
  leads := fun ⟨hshallow, hshallow'⟩ ↦
    (h.leads hshallow).trans begins ((h' hshallow).leads hshallow')
  refuses hdeep := by
    by_cases hshallow : shallow
    · refine (h.leads hshallow).refuses begins ((h' hshallow).refuses fun hshallow' ↦ ?_)
      exact hdeep ⟨hshallow, hshallow'⟩
    · exact (h.refuses hshallow).append

theorem Outcome.one (hroom : shallow → step s t = .ok s')
    (hfull : ¬ shallow → step s t = .error ⟨.tooDeep, t.location⟩)
    (ht : t.value = .punctuation .openBrace ∨ t.value = .punctuation .openBracket) :
    Outcome shallow AnyToken s [t] s' where
  leads hshallow := .one (hroom hshallow)
  refuses hdeep := by
    refine ⟨t, List.mem_singleton_self t, ht, ?_⟩
    rw [List.foldlM_cons, hfull hdeep]
    rfl

theorem Outcome.congr (h : Outcome shallow follow s ts s') (hiff : shallow ↔ shallow') :
    Outcome shallow' follow s ts s' where
  leads hshallow := h.leads (hiff.2 hshallow)
  refuses hdeep := h.refuses fun hshallow ↦ hdeep (hiff.1 hshallow)

end Composition

section Parts

variable {head : FieldHead} {kind : ScalarKind} {bodies outer : List Body} {body : Body}
  {items : List Item} {ts : List (Located Token)} {clause : ConstraintClause}
  {clauses reversed : List ConstraintClause}

theorem reads_head (bodies : List Body) (items : List Item) (h : WritesHead ts head) :
    Leads (· = .punctuation .colon) ⟨.field, bodies, items⟩ ts ⟨.fieldColon head, bodies, items⟩ := by
  cases h with
  | quoted name => exact (Leads.one rfl).mono fun _ _ ↦ trivial
  | bare name =>
    obtain ⟨name, place⟩ := name
    by_cases hname : name = "optional"
    · subst hname
      -- Only the colon tells that this is the name of the field.
      refine .of_step ⟨.optionalWord place, bodies, items⟩ rfl fun t ht ↦ ?_
      obtain ⟨token, location⟩ := t
      obtain rfl : token = _ := ht
      rfl
    · refine (Leads.one ?_).mono fun _ _ ↦ trivial
      simp only [step, stepField, bare, word]
      rfl
  | optional place named =>
    refine .cons ⟨.optionalWord place, bodies, items⟩ rfl ?_
    cases named <;> exact (Leads.one rfl).mono fun _ _ ↦ trivial

theorem step_literal {t : Located Token} {literal : Located Literal} {key : Located String}
    (h : WritesLiteral t literal) :
    step ⟨.constraintLiteral head kind reversed key, bodies, items⟩ t =
      .ok ⟨.constraintEnd head kind (⟨key, literal⟩ :: reversed), bodies, items⟩ := by
  cases h <;> rfl

theorem reads_constraint (h : WritesConstraint ts clause) :
    Leads AnyToken ⟨.constraintKey head kind reversed, bodies, items⟩ ts
      ⟨.constraintEnd head kind (clause :: reversed), bodies, items⟩ := by
  cases h with
  | mk value =>
    refine .cons ⟨.constraintEquals head kind reversed _, bodies, items⟩ rfl ?_
    refine .cons ⟨.constraintLiteral head kind reversed _, bodies, items⟩ rfl ?_
    exact .one (step_literal value)

theorem reads_constraints (reversed : List ConstraintClause) (h : WritesConstraints ts clauses) :
    Leads AnyToken ⟨.constraintKey head kind reversed, bodies, items⟩ ts
      ⟨.typeEnd head (.scalar kind (reversed.reverse ++ clauses)) 0, bodies, items⟩ := by
  induction h generalizing reversed with
  | close place =>
    rw [List.append_nil]
    exact .one rfl
  | @last ts clause first place =>
    refine (reads_constraint first).trans (.cons trivial) ?_
    rw [← List.reverse_cons]
    exact .one rfl
  | @cons ts rest clause clauses first comma others ih =>
    refine (reads_constraint first).trans (.cons trivial) ?_
    refine .cons ⟨.constraintKey head kind (clause :: reversed), bodies, items⟩ rfl ?_
    have hrest := @ih (clause :: reversed)
    rwa [List.reverse_cons, List.append_assoc, List.singleton_append] at hrest

end Parts

section Types

variable {head : FieldHead} {kind : ScalarKind} {bodies outer : List Body} {body : Body}
  {items : List Item} {ts : List (Located Token)} {type : TypeClause}

/-- What may come after a type: not what would begin its body or its constraints. -/
def FollowsType (t : Token) : Prop :=
  t ≠ .punctuation .openBrace ∧ t ≠ .punctuation .openParenthesis

theorem stepScalarEnd_of_follows {t : Located Token} (ht : FollowsType t.value) :
    step ⟨.scalarEnd head kind, body :: outer, items⟩ t =
      step ⟨.typeEnd head (.scalar kind []) 0, body :: outer, items⟩ t := by
  change stepScalarEnd _ head kind t = _
  unfold stepScalarEnd
  split
  case h_1 heq => exact absurd heq ht.2
  case h_2 => rfl

theorem stepOpennessWord_of_follows {openness : Openness} {name : Located String}
    {t : Located Token} (ht : FollowsType t.value) :
    step ⟨.opennessWord head openness name, body :: outer, items⟩ t =
      step ⟨.typeEnd head (.named name) 0, body :: outer, items⟩ t := by
  change stepOpennessWord _ head openness name t = _
  unfold stepOpennessWord
  split
  case h_1 heq => exact absurd heq ht.1
  case h_2 => rfl

theorem stepType_of_kind {text : String} (isKind : text ∈ kind.words) (place : Location) :
    step ⟨.type head, bodies, items⟩ (word text place) = .ok ⟨.scalarEnd head kind, bodies, items⟩ := by
  have hopenness := Openness.ofWord?_of_mem_words isKind
  have hkind := ScalarKind.ofWord?_eq_some_iff.2 isKind
  simp only [step, stepType, word, hopenness, hkind]
  rfl

theorem reads_named {name : Located String} (isNoKind : ∀ kind : ScalarKind, name.value ∉ kind.words) :
    Leads FollowsType ⟨.type head, body :: outer, items⟩ [bare name]
      ⟨.typeEnd head (.named name) 0, body :: outer, items⟩ := by
  have hkind := ScalarKind.ofWord?_eq_none_iff.2 isNoKind
  cases hopenness : Openness.ofWord? name.value with
  | none =>
    refine (Leads.one ?_).mono fun _ _ ↦ trivial
    simp only [step, stepType, bare, word, hopenness, hkind]
    rfl
  | some openness =>
    -- A name like `open` is told from the qualifier of a body by the token after it.
    refine .of_step ⟨.opennessWord head openness name, body :: outer, items⟩ ?_
      fun _ ↦ stepOpennessWord_of_follows
    simp only [step, stepType, bare, word, hopenness]
    rfl

theorem openBody_outcome {s : State} {owner : Owner} {opening : Location}
    (hstep : step s (mark .openBrace opening) = s.openBody owner (mark .openBrace opening))
    (hroom : s.bodies.length ≤ nestingLimit) : Outcome (s.bodies.length < nestingLimit) AnyToken s
      [mark .openBrace opening] ⟨.field, ⟨owner, []⟩ :: s.bodies, s.reversed⟩ := by
  refine .one (fun hlt ↦ ?_) (fun hfull ↦ ?_) (.inl rfl)
  · rw [hstep, State.openBody, if_neg (Nat.ne_of_lt hlt)]
  · rw [hstep, State.openBody, if_pos (Nat.le_antisymm hroom (Nat.le_of_not_lt hfull))]

theorem reads_opening (head : FieldHead) (items : List Item) {qualifier : List (Located Token)}
    {openness : Option Openness} (qualified : WritesOpenness qualifier openness) (hroom : bodies.length ≤ nestingLimit)
    (opening : Location) : Outcome (bodies.length < nestingLimit) AnyToken ⟨.type head, bodies, items⟩
      (qualifier ++ [mark .openBrace opening])
      ⟨.field, ⟨.field head openness, []⟩ :: bodies, items⟩ := by
  cases qualified with
  | silent => exact openBody_outcome (s := ⟨.type head, bodies, items⟩) rfl hroom
  | stated openness place =>
    have hword := Openness.ofWord?_eq_some_iff.2 (rfl : openness.word = openness.word)
    refine .cons ⟨.opennessWord head openness ⟨openness.word, place⟩, bodies, items⟩ ?_
      (.cons trivial) (openBody_outcome (s := ⟨.opennessWord head openness _, bodies, items⟩) rfl hroom)
    simp only [step, stepType, word, hword]
    rfl

theorem reads_brackets (head : FieldHead) (bodies : List Body) (items : List Item)
    (hroom : type.brackets ≤ nestingLimit) (opening closing : Location) :
    Outcome (type.brackets < nestingLimit) AnyToken
      ⟨.typeEnd head type type.brackets, bodies, items⟩
      [mark .openBracket opening, mark .closeBracket closing]
      ⟨.typeEnd head (.array type) (TypeClause.array type).brackets, bodies, items⟩ := by
  have hopen : step ⟨.typeEnd head type type.brackets, bodies, items⟩ (mark .openBracket opening) =
      if type.brackets = nestingLimit then .error ⟨.tooDeep, opening⟩
      else .ok ⟨.closeBracket head type type.brackets, bodies, items⟩ := rfl
  have hbracket : Outcome (type.brackets < nestingLimit) AnyToken
      ⟨.typeEnd head type type.brackets, bodies, items⟩ [mark .openBracket opening]
      ⟨.closeBracket head type type.brackets, bodies, items⟩ := by
    refine .one (fun hlt ↦ ?_) (fun hfull ↦ ?_) (.inr rfl)
    · rw [hopen, if_neg (Nat.ne_of_lt hlt)]
    · rw [hopen, if_pos (Nat.le_antisymm hroom (Nat.le_of_not_lt hfull))]
      rfl
  exact hbracket.append (.cons trivial) (.one rfl)

end Types

section Fields

variable {head : FieldHead} {outer : List Body} {owner : Owner} {items : List Item}
  {ts : List (Located Token)} {reversed fields : List Field}

/-- What a field may begin with, or the end of a body. -/
def StartsField (t : Token) : Prop :=
  t = .punctuation .closeBrace ∨ (∃ text, t = .word text) ∨ ∃ content, t = .string content

theorem StartsField.followsType {t : Token} (h : StartsField t) : FollowsType t := by
  rcases h with rfl | ⟨text, rfl⟩ | ⟨content, rfl⟩ <;> exact ⟨nofun, nofun⟩

theorem StartsField.ne_comma {t : Token} (h : StartsField t) : t ≠ .punctuation .comma := by
  rcases h with rfl | ⟨text, rfl⟩ | ⟨content, rfl⟩ <;> exact nofun

theorem begins_head (h : WritesHead ts head) : Begins StartsField ts := by
  cases h with
  | bare | optional => exact .cons (.inr (.inl ⟨_, rfl⟩))
  | quoted => exact .cons (.inr (.inr ⟨_, rfl⟩))

theorem begins_fields (h : WritesFields ts fields) : Begins StartsField ts := by
  cases h with
  | close place => exact .cons (.inl rfl)
  | cons named colon typed defaulted separated others => exact (begins_head named).append

theorem stepField_phase {body : Body} (phase phase' : Phase) (t : Located Token) :
    stepField ⟨phase, body :: outer, items⟩ t = stepField ⟨phase', body :: outer, items⟩ t := by
  obtain ⟨owner, reversed⟩ := body
  unfold stepField
  split
  case h_1 => cases owner <;> rfl
  all_goals rfl

theorem stepFieldEnd_of_starts {body : Body} {t : Located Token} (ht : StartsField t.value) :
    step ⟨.fieldEnd, body :: outer, items⟩ t = step ⟨.field, body :: outer, items⟩ t := by
  change stepFieldEnd _ t = stepField _ t
  unfold stepFieldEnd
  split
  case h_1 heq => exact absurd heq ht.ne_comma
  case h_2 => exact stepField_phase _ _ t

theorem stepTypeEnd_of_starts {type : TypeClause} {brackets : Nat} {t : Located Token}
    (ht : StartsField t.value) :
    step ⟨.typeEnd head type brackets, ⟨owner, reversed⟩ :: outer, items⟩ t =
      step ⟨.field, ⟨owner, ⟨head.name, head.isOptional, type, none⟩ :: reversed⟩ :: outer, items⟩
        t := by
  rw [← stepFieldEnd_of_starts ht]
  change stepTypeEnd _ head type brackets t = stepFieldEnd _ t
  unfold stepTypeEnd
  split
  case h_1 heq | h_2 heq => rcases ht with h | ⟨_, h⟩ | ⟨_, h⟩ <;> cases heq.symm.trans h
  case h_3 => rfl

theorem reads_fieldEnd (brackets : Nat) {type : TypeClause} {df comma : List (Located Token)}
    {default : Option (Located Literal)} (defaulted : WritesDefault df default)
    (separated : MayStand .comma comma) :
    Leads StartsField ⟨.typeEnd head type brackets, ⟨owner, reversed⟩ :: outer, items⟩ (df ++ comma)
      ⟨.field, ⟨owner, ⟨head.name, head.isOptional, type, default⟩ :: reversed⟩ :: outer, items⟩ := by
  cases defaulted with
  | absent =>
    cases separated with
    | absent => exact .same fun _ ↦ stepTypeEnd_of_starts
    | present place => exact (Leads.one rfl).mono fun _ _ ↦ trivial
  | @stated t literal equals value =>
    have hliteral : step ⟨.defaultLiteral head type, ⟨owner, reversed⟩ :: outer, items⟩ t =
        .ok ⟨.fieldEnd, ⟨owner, ⟨head.name, head.isOptional, type, some literal⟩ :: reversed⟩ :: outer,
          items⟩ := by
      cases value <;> rfl
    refine .cons ⟨.defaultLiteral head type, ⟨owner, reversed⟩ :: outer, items⟩ rfl ?_
    refine .cons _ hliteral ?_
    cases separated with
    | absent => exact .same fun _ ↦ stepFieldEnd_of_starts
    | present place => exact (Leads.one rfl).mono fun _ _ ↦ trivial

theorem begins_fieldEnd {df comma rest : List (Located Token)} {default : Option (Located Literal)}
    (defaulted : WritesDefault df default) (separated : MayStand .comma comma)
    (others : WritesFields rest fields) : Begins FollowsType ((df ++ comma) ++ rest) := by
  cases defaulted with
  | stated => exact .cons ⟨nofun, nofun⟩
  | absent =>
    cases separated with
    | present => exact .cons ⟨nofun, nofun⟩
    | absent => exact (begins_fields others).mono fun _ ↦ StartsField.followsType

end Fields

section Bodies

theorem begins_type {ts : List (Located Token)} (type : TypeClause) (h : WritesType ts type) :
    Begins AnyToken ts := by
  cases h with
  | scalar | constrained | named => exact .cons trivial
  | inline qualified => cases qualified <;> exact .cons trivial
  | array element => exact (begins_type _ element).append

theorem closeBody_field {phase : Phase} {head : FieldHead} {openness : Option Openness}
    {reversed : List Field} {outer : List Body} {items : List Item} :
    State.closeBody ⟨phase, ⟨.field head openness, reversed⟩ :: outer, items⟩ =
      ⟨.typeEnd head (.inline openness reversed.reverse) 0, outer, items⟩ := rfl

theorem closeBody_declaration {phase : Phase} {name : Located String} {isRoot : Bool}
    {openness : Option Openness} {reversed : List Field} {outer : List Body} {items : List Item} :
    State.closeBody ⟨phase, ⟨.declaration name isRoot openness, reversed⟩ :: outer, items⟩ =
      ⟨.item, outer, .type ⟨name, isRoot, openness, reversed.reverse⟩ :: items⟩ := rfl

mutual

theorem reads_type (head : FieldHead) (body : Body) (outer : List Body) (items : List Item)
    (type : TypeClause) {ts : List (Located Token)} (h : WritesType ts type)
    (hroom : (body :: outer).length ≤ nestingLimit) :
    Outcome ((body :: outer).length + type.depth ≤ nestingLimit ∧ type.mostBrackets ≤ nestingLimit)
      FollowsType ⟨.type head, body :: outer, items⟩ ts
      ⟨.typeEnd head type type.brackets, body :: outer, items⟩ := by
  cases h with
  | scalar isKind place =>
    refine .of_leads ⟨hroom, Nat.zero_le _⟩ ?_
    exact .of_step _ (stepType_of_kind isKind place) fun _ ↦ stepScalarEnd_of_follows
  | @constrained kind _ _ clauses isKind place opening constraints =>
    refine .of_leads ⟨hroom, Nat.zero_le _⟩ ?_
    refine .cons _ (stepType_of_kind isKind place) ?_
    refine .cons ⟨.constraintKey head kind [], body :: outer, items⟩ rfl ?_
    exact (reads_constraints [] constraints).mono fun _ _ ↦ trivial
  | named isNoKind => exact .of_leads ⟨hroom, Nat.zero_le _⟩ (reads_named isNoKind)
  | @inline qualifier content openness fields qualified opening writes =>
    rw [List.append_cons]
    have hopening := reads_opening head items qualified hroom opening
    have hcontent := reads_fields (.field head openness) [] (body :: outer) items fields writes
    have hbody := hopening.trans (begins_fields writes).any hcontent
    rw [List.append_nil, closeBody_field, List.reverse_reverse] at hbody
    refine (hbody.mono fun _ _ ↦ trivial).congr ?_
    simp only [TypeClause.depth, TypeClause.mostBrackets]
    omega
  | @array _ item element opening closing =>
    have helement := reads_type head body outer items item element hroom
    have hbrackets (hmost : item.mostBrackets ≤ nestingLimit) :=
      reads_brackets head (body :: outer) items
        (Nat.le_trans item.brackets_le_mostBrackets hmost) opening closing
    have harray := helement.trans (.cons (t := mark .openBracket opening) ⟨nofun, nofun⟩)
      fun hshallow ↦ hbrackets hshallow.2
    refine (harray.mono fun _ _ ↦ trivial).congr ?_
    simp only [TypeClause.depth, TypeClause.mostBrackets]
    omega

theorem reads_fields (owner : Owner) (reversed : List Field) (outer : List Body) (items : List Item)
    (fields : List Field) {ts : List (Located Token)} (h : WritesFields ts fields) (hroom : outer.length + 1 ≤ nestingLimit) :
    Outcome (outer.length + 1 + depthWithin fields ≤ nestingLimit ∧
        mostBracketsWithin fields ≤ nestingLimit)
      AnyToken ⟨.field, ⟨owner, reversed⟩ :: outer, items⟩ ts
      (State.closeBody ⟨.field, ⟨owner, fields.reverse ++ reversed⟩ :: outer, items⟩) := by
  cases h with
  | close place => exact .of_leads ⟨hroom, Nat.zero_le _⟩ (.one rfl)
  | @cons _ _ df comma rest head type default fields named colon typed defaulted separated others =>
    have htype := reads_type head ⟨owner, reversed⟩ outer items type typed hroom
    have hothers := reads_fields owner (⟨head.name, head.isOptional, type, default⟩ :: reversed) outer
      items fields others hroom
    -- Each part is read in view of what the next one begins with, so they are joined from the end.
    have hend := (reads_fieldEnd type.brackets defaulted separated).outcome (begins_fields others)
      hothers
    have hfield := (reads_head (⟨owner, reversed⟩ :: outer) items named).outcome
      (.cons rfl) (.cons _ (t := mark .colon colon) rfl (begins_type type typed).append
        (htype.trans (begins_fieldEnd defaulted separated others) fun _ ↦ hend))
    rw [List.append_assoc] at hfield
    rw [List.reverse_cons, List.append_assoc, List.singleton_append]
    refine hfield.congr ?_
    simp only [depthWithin, mostBracketsWithin, List.length_cons]
    omega

end

end Bodies

section Items

variable {items : List Item} {item : Item} {reversed : List Item} {ts : List (Located Token)}

/-- What may come after a declaration: not what would belong to a root without a body. -/
def FollowsItem (t : Token) : Prop :=
  t ≠ .punctuation .openBrace ∧ t ≠ .punctuation .semicolon

theorem stepRootEnd_of_follows {name : Located String} {t : Located Token}
    (ht : FollowsItem t.value) :
    step ⟨.rootEnd none name, [], reversed⟩ t = step ⟨.item, [], .root name :: reversed⟩ t := by
  change stepRootEnd _ none name t = _
  unfold stepRootEnd
  split
  case h_1 heq => exact absurd heq ht.1
  case h_3 heq _ => exact absurd heq ht.2
  case h_2 heq _ => cases heq
  case h_4 => rfl

theorem reads_declaration (reversed : List Item) {qualifier : List (Located Token)} {openness : Option Openness}
    (qualified : WritesOpenness qualifier openness) (isRoot : Bool) (place : Location)
    (name : Located String) (opening : Location) :
    Leads AnyToken ⟨.item, [], reversed⟩
      (qualifier ++ [word (declarationWord isRoot) place, bare name, mark .openBrace opening])
      ⟨.field, [⟨.declaration name isRoot openness, []⟩], reversed⟩ := by
  have hnamed (phase : Phase) (hphase : phase = .item ∧ openness = none ∨
      ∃ stated, phase = .itemKeyword stated ∧ openness = some stated) :
      Leads AnyToken ⟨phase, [], reversed⟩
        [word (declarationWord isRoot) place, bare name, mark .openBrace opening]
        ⟨.field, [⟨.declaration name isRoot openness, []⟩], reversed⟩ := by
    rcases hphase with ⟨rfl, rfl⟩ | ⟨stated, rfl, rfl⟩ <;> cases isRoot <;>
      exact .cons _ rfl (.cons _ rfl (.one rfl))
  cases qualified with
  | silent => exact hnamed .item (.inl ⟨rfl, rfl⟩)
  | stated openness location =>
    refine .cons ⟨.itemKeyword openness, [], reversed⟩ ?_ (hnamed _ (.inr ⟨_, rfl, rfl⟩))
    cases openness <;> rfl

theorem reads_item (reversed : List Item) (h : WritesItem ts item) :
    Outcome item.IsShallow FollowsItem ⟨.item, [], reversed⟩ ts ⟨.item, [], item :: reversed⟩ := by
  cases h with
  | @type qualifier body openness fields qualified isRoot place name opening content =>
    have hopening := reads_declaration reversed qualified isRoot place name opening
    have hbody := reads_fields (.declaration name isRoot openness) [] [] reversed fields content
      (by decide)
    rw [List.append_nil, closeBody_declaration, List.reverse_reverse] at hbody
    have hitem := hopening.outcome (begins_fields content).any hbody
    rw [List.append_assoc] at hitem
    refine (hitem.mono fun _ _ ↦ trivial).congr ?_
    simp only [Item.IsShallow, Item.depth, Item.mostBrackets, List.length_nil]
    omega
  | root place name ended =>
    refine .of_leads ⟨Nat.zero_le _, Nat.zero_le _⟩ ?_
    refine .cons ⟨.rootName none, [], reversed⟩ rfl ?_
    cases ended with
    | absent => exact .of_step ⟨.rootEnd none name, [], reversed⟩ rfl fun _ ↦ stepRootEnd_of_follows
    | present place =>
      refine .cons ⟨.rootEnd none name, [], reversed⟩ rfl ?_
      exact (Leads.one rfl).mono fun _ _ ↦ trivial

theorem begins_item (h : WritesItem ts item) : Begins FollowsItem ts := by
  cases h with
  | root => exact .cons ⟨nofun, nofun⟩
  | type qualified => cases qualified <;> exact .cons ⟨nofun, nofun⟩

theorem reads_items (reversed : List Item) (h : WritesItems ts items) :
    Outcome (∀ item ∈ items, item.IsShallow) FollowsItem ⟨.item, [], reversed⟩ ts
      ⟨.item, [], items.reverse ++ reversed⟩ := by
  induction h generalizing reversed with
  | nil => exact .of_leads nofun (.same fun _ _ ↦ rfl)
  | @cons ts rest item items first others ih =>
    have hitem := reads_item reversed first
    have hitems := @ih (item :: reversed)
    rw [List.reverse_cons, List.append_assoc, List.singleton_append]
    refine Outcome.congr ?_ (List.forall_mem_cons).symm
    cases others with
    | nil =>
      rw [List.append_nil]
      exact hitem.congr (iff_self_and.2 fun _ ↦ List.forall_mem_nil _)
    | cons second _ => exact hitem.trans (begins_item second).append fun _ ↦ hitems

end Items

end DocumentSchema.Blueprint.Parser

namespace DocumentSchema.Blueprint

variable {ts : List (Located Token)} {items : List Item}

theorem parse_of_writes (h : WritesItems ts items) (hshallow : ∀ item ∈ items, item.IsShallow)
    (place : Location) : parse (ts ++ [⟨.endOfInput, place⟩]) = .ok items := by
  have hleads := (Parser.reads_items [] h).leads hshallow
  have hfold := hleads ⟨.endOfInput, place⟩ [] ⟨nofun, nofun⟩
  rw [List.append_nil] at hfold
  rw [parse, Parser.State.start, hfold]
  exact congrArg Except.ok items.reverse_reverse

theorem parse_of_deep (h : WritesItems ts items) (hdeep : ¬ ∀ item ∈ items, item.IsShallow)
    (place : Location) : ∃ t ∈ ts, (t.value = .punctuation .openBrace ∨
      t.value = .punctuation .openBracket) ∧
        parse (ts ++ [⟨.endOfInput, place⟩]) = .error ⟨.tooDeep, t.location⟩ := by
  obtain ⟨t, ht, hvalue, hfails⟩ := (Parser.reads_items [] h).refuses hdeep
  refine ⟨t, ht, hvalue, ?_⟩
  rw [parse, Parser.State.start, List.foldlM_append, hfails]
  rfl

end DocumentSchema.Blueprint
