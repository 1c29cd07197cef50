import DocumentSchema.Pattern.Engine
import DocumentSchema.Proofs.Blueprint.Acceptance
import DocumentSchema.Proofs.Blueprint.Anchors
import DocumentSchema.Proofs.Blueprint.Derivation
import DocumentSchema.Proofs.Blueprint.Positions

namespace DocumentSchema.Blueprint

open DocumentSchema.Except (bind_eq_error_iff bind_eq_ok_iff foldlM_eq_error_of_prefix
  mapError_eq_error_iff mapError_eq_ok_iff)

namespace Parser

/-- What a token is refused as: as one that the grammar does not ask for, or as one that opens a body or
brackets too many. -/
inductive Refused (t : Located Token) : Located SyntaxFault → Prop
  | unexpected (expected : Expectation) : Refused t ⟨.unexpected expected t.value, t.location⟩
  | tooDeep (opens : t.value = .punctuation .openBrace ∨ t.value = .punctuation .openBracket) :
      Refused t ⟨.tooDeep, t.location⟩

variable {s s' : State} {t : Located Token} {f : Located SyntaxFault}

theorem refused_of_unexpected {expected : Expectation}
    (h : (unexpected expected t : Result State) = .error f) : Refused t f := by
  cases h
  exact .unexpected expected

theorem refused_of_openBody {owner : Owner} (ht : t.value = .punctuation .openBrace)
    (h : s.openBody owner t = .error f) : Refused t f := by
  unfold State.openBody at h
  split at h
  · cases h
    exact .tooDeep (.inl ht)
  · cases h

theorem refused_of_itemKeyword {openness : Option Openness}
    (h : stepItemKeyword s openness t = .error f) : Refused t f := by
  unfold stepItemKeyword at h
  split at h
  case h_1 | h_2 => cases h
  case h_3 => exact refused_of_unexpected h

theorem refused_of_item (h : stepItem s t = .error f) : Refused t f := by
  unfold stepItem at h
  split at h
  case h_1 => cases h
  case h_2 =>
    split at h
    case h_1 => cases h
    case h_2 => exact refused_of_itemKeyword h
  case h_3 => exact refused_of_itemKeyword h

theorem refused_of_rootEnd {openness : Option Openness} {name : Located String}
    (h : stepRootEnd s openness name t = .error f) : Refused t f := by
  unfold stepRootEnd at h
  split at h
  case h_1 heq => exact refused_of_openBody heq h
  case h_2 => exact refused_of_unexpected h
  case h_3 => cases h
  case h_4 => exact refused_of_item h

theorem refused_of_field (h : stepField s t = .error f) : Refused t f := by
  unfold stepField at h
  split at h
  case h_5 => exact refused_of_unexpected h
  all_goals cases h

theorem refused_of_fieldEnd (h : stepFieldEnd s t = .error f) : Refused t f := by
  unfold stepFieldEnd at h
  split at h
  case h_1 => cases h
  case h_2 => exact refused_of_field h

theorem refused_of_fieldColon {head : FieldHead} (h : stepFieldColon s head t = .error f) :
    Refused t f := by
  unfold stepFieldColon at h
  split at h
  case h_1 => cases h
  case h_2 => exact refused_of_unexpected h

theorem refused_of_typeEnd {head : FieldHead} {type : TypeClause} {brackets : Nat}
    (h : stepTypeEnd s head type brackets t = .error f) : Refused t f := by
  unfold stepTypeEnd at h
  split at h
  case h_1 heq =>
    split at h
    · cases h
      exact .tooDeep (.inr heq)
    · cases h
  case h_2 => cases h
  case h_3 => exact refused_of_fieldEnd h

theorem refused_of_type {head : FieldHead} (h : stepType s head t = .error f) : Refused t f := by
  unfold stepType at h
  split at h
  case h_1 heq => exact refused_of_openBody heq h
  case h_2 =>
    repeat' split at h
    all_goals cases h
  case h_3 => exact refused_of_unexpected h

theorem refused_of_optionalWord {location : Location} (h : stepOptionalWord s location t = .error f) :
    Refused t f := by
  unfold stepOptionalWord at h
  split at h
  case h_1 | h_2 => cases h
  case h_3 => exact refused_of_fieldColon h

theorem refused_of_opennessWord {head : FieldHead} {openness : Openness} {name : Located String}
    (h : stepOpennessWord s head openness name t = .error f) : Refused t f := by
  unfold stepOpennessWord at h
  split at h
  case h_1 heq => exact refused_of_openBody heq h
  case h_2 => exact refused_of_typeEnd h

theorem refused_of_scalarEnd {head : FieldHead} {kind : ScalarKind}
    (h : stepScalarEnd s head kind t = .error f) : Refused t f := by
  unfold stepScalarEnd at h
  split at h
  case h_1 => cases h
  case h_2 => exact refused_of_typeEnd h

theorem refused_of_constraintKey {head : FieldHead} {kind : ScalarKind}
    {reversed : List ConstraintClause} (h : stepConstraintKey s head kind reversed t = .error f) :
    Refused t f := by
  unfold stepConstraintKey at h
  split at h
  case h_1 | h_2 => cases h
  case h_3 => exact refused_of_unexpected h

theorem refused_of_constraintEnd {head : FieldHead} {kind : ScalarKind}
    {reversed : List ConstraintClause} (h : stepConstraintEnd s head kind reversed t = .error f) :
    Refused t f := by
  unfold stepConstraintEnd at h
  split at h
  case h_1 | h_2 => cases h
  case h_3 => exact refused_of_unexpected h

theorem refused_of_step (h : step s t = .error f) : Refused t f := by
  obtain ⟨phase, bodies, reversed⟩ := s
  cases phase with
  | item => exact refused_of_item h
  | itemKeyword openness => exact refused_of_itemKeyword h
  | rootEnd openness name => exact refused_of_rootEnd h
  | field => exact refused_of_field h
  | fieldEnd => exact refused_of_fieldEnd h
  | optionalWord location => exact refused_of_optionalWord h
  | fieldColon head => exact refused_of_fieldColon h
  | type head => exact refused_of_type h
  | opennessWord head openness name => exact refused_of_opennessWord h
  | scalarEnd head kind => exact refused_of_scalarEnd h
  | constraintKey head kind clauses => exact refused_of_constraintKey h
  | constraintEnd head kind clauses => exact refused_of_constraintEnd h
  | typeEnd head type brackets => exact refused_of_typeEnd h
  | typeBody openness name =>
    dsimp only [step] at h
    split at h
    case h_1 heq => exact refused_of_openBody heq h
    case h_2 => exact refused_of_unexpected h
  | typeName | rootName | constraintEquals | constraintLiteral | closeBracket | defaultLiteral =>
    dsimp only [step] at h
    split at h
    case h_1 => cases h
    case h_2 => exact refused_of_unexpected h

end Parser

theorem refused_of_parse {tokens : List (Located Token)} {f : Located SyntaxFault}
    (h : parse tokens = .error f) : ∃ t ∈ tokens, Parser.Refused t f := by
  have hrun : tokens.foldlM Parser.step .start = .error f := by
    unfold parse at h
    cases hfold : tokens.foldlM Parser.step .start with
    | error f' =>
      rw [hfold] at h
      exact congrArg Except.error (Except.error.inj h)
    | ok s =>
      rw [hfold] at h
      cases h
  obtain ⟨before, t, after, s, rfl, -, hstep⟩ :=
    foldlM_eq_error_of_prefix (motive := fun _ _ ↦ True) trivial (fun _ _ _ _ _ _ ↦ trivial) hrun
  exact ⟨t, List.mem_append_right _ List.mem_cons_self, Parser.refused_of_step hstep⟩

section Scopes

/-- The names of one scope, in the order in which they are declared. -/
inductive Scoped (items : List Item) : DeclarationKind → List (Located String) → Prop
  | types : Scoped items .type ((declarations items).map (·.name))
  | fields {body : List Field} (mem : body ∈ allBodies items) :
      Scoped items .field (body.map (·.name))
  | roots : Scoped items .root (designations items)

/-- The constraints of the type of some field. -/
def Constrains (items : List Item) (clauses : List ConstraintClause) : Prop :=
  ∃ body ∈ allBodies items, ∃ f ∈ body, ∃ kind, f.type.base = .scalar kind clauses

def ConstraintFault.pair? : ConstraintFault → Option (ConstraintKey × ConstraintKey)
  | .invertedBounds _ _ => some (.minimum, .maximum)
  | .invertedLengths _ _ => some (.minLength, .maxLength)
  | _ => none

/-- What a token has to do with a fault of the declarations that are read from tokens. -/
inductive Accused (tokens : List (Located Token)) (items : List Item) (t : Located Token) :
    Fault → Prop
  | reserved {name : String} (isName : t.value = .word name) :
      Accused tokens items t (.form (.reservedName name))
  | unresolved {name : String} (isName : t.value = .word name) :
      Accused tokens items t (.unresolved name)
  | duplicate {kind : DeclarationKind} {name : String} {names : List (Located String)}
      {earlier : Located Token} (isScope : Scoped items kind names)
      (declared : [⟨name, earlier.location⟩, ⟨name, t.location⟩].Sublist names)
      (ordered : [earlier, t].Sublist tokens)
      (isEarlierName : earlier.value = .word name ∨ earlier.value = .string name)
      (isName : t.value = .word name ∨ t.value = .string name) :
      Accused tokens items t (.duplicate kind name)
  | default {body : List Field} {f : Field} {literal : Literal} {fault : DefaultFault}
      (isBody : body ∈ allBodies items) (isField : f ∈ body)
      (isDefault : f.default = some ⟨literal, t.location⟩)
      (isLiteral : Parser.literal? t.value = some literal) :
      Accused tokens items t (.invalidDefault f.name.value fault)
  | inverted {fault : ConstraintFault} {a b : ConstraintKey}
      {clauses before after : List ConstraintClause} {sooner later : ConstraintClause}
      {earlier : Located Token} (isPair : fault.pair? = some (a, b))
      (constrains : Constrains items clauses) (split : clauses = before ++ later :: after)
      (isSooner : sooner ∈ before) (areBoth : sooner.key? = some a ∧ later.key? = some b ∨
        sooner.key? = some b ∧ later.key? = some a)
      (isLast : ∀ c ∈ after, c.key? ≠ some a ∧ c.key? ≠ some b)
      (ordered : [earlier, t].Sublist tokens)
      (isEarlierKey : earlier.value = .word sooner.key.value ∧ sooner.key.location = earlier.location)
      (isKey : t.value = .word later.key.value ∧ later.key.location = t.location) :
      Accused tokens items t (.invalidConstraint fault)
  | constraint {fault : ConstraintFault} {clauses : List ConstraintClause} {clause : ConstraintClause}
      (isNoPair : fault.pair? = none) (constrains : Constrains items clauses)
      (isClause : clause ∈ clauses)
      (isKeyOrLiteral : t.value = .word clause.key.value ∧ clause.key.location = t.location ∨
        Parser.literal? t.value = some clause.literal.value ∧ clause.literal.location = t.location) :
      Accused tokens items t (.invalidConstraint fault)

/-- A token of the list is accused of a fault at its place. -/
def HasAccused (tokens : List (Located Token)) (items : List Item) (f : Located Fault) : Prop :=
  ∃ t ∈ tokens, f.location = t.location ∧ Accused tokens items t f.value

end Scopes

section Accusations

variable {tokens : List (Located Token)} {items : List Item} {body : List Field} {field : Field}
  {f : Located Fault} {kind : ScalarKind} {clauses : List ConstraintClause}

theorem exists_named (hshows : Shows tokens (items.flatMap Item.anchors)) {name : Located String}
    (hname : [name.asWord].Sublist (items.flatMap Item.anchors)) :
    ∃ t ∈ tokens, t.value = .word name.value ∧ name.location = t.location :=
  (hshows.sublist hname).exists_one

theorem exists_declared (hshows : Shows tokens (items.flatMap Item.anchors)) {kind : DeclarationKind}
    {names : List (Located String)} (hscoped : Scoped items kind names) {a b : Located String}
    (hnames : [a, b].Sublist names) : ∃ t u, [t, u].Sublist tokens ∧
      ((t.value = .word a.value ∨ t.value = .string a.value) ∧ a.location = t.location) ∧
        (u.value = .word b.value ∨ u.value = .string b.value) ∧ b.location = u.location := by
  have hwords (hanchors : (names.map Located.asWord).Sublist (items.flatMap Item.anchors)) :
      ∃ t u, [t, u].Sublist tokens ∧
        ((t.value = .word a.value ∨ t.value = .string a.value) ∧ a.location = t.location) ∧
          (u.value = .word b.value ∨ u.value = .string b.value) ∧ b.location = u.location := by
    obtain ⟨t, u, hsub, ⟨ht, htplace⟩, hu, huplace⟩ :=
      (hshows.sublist ((hnames.map Located.asWord).trans hanchors)).exists_two
    exact ⟨t, u, hsub, ⟨.inl ht, htplace⟩, .inl hu, huplace⟩
  cases hscoped with
  | types =>
    refine hwords ?_
    rw [List.map_map]
    exact declared_sublist items
  | roots => exact hwords (designated_sublist items)
  | @fields body mem =>
    have hanchors : ((body.map (·.name)).map Located.asLabel).Sublist
        (items.flatMap Item.anchors) := by
      rw [List.map_map]
      exact (labels_sublist body).trans (body_sublist mem)
    exact (hshows.sublist ((hnames.map Located.asLabel).trans hanchors)).exists_two

theorem pair_sublist {α : Type} {a b : α} {before after : List α} (mem : a ∈ before) :
    [a, b].Sublist (before ++ b :: after) :=
  (List.singleton_sublist.2 mem).append (List.singleton_sublist.2 List.mem_cons_self)

theorem duplicate_accused (hshows : Shows tokens (items.flatMap Item.anchors))
    {kind : DeclarationKind} {names : List (Located String)} (isScope : Scoped items kind names)
    (before : List (Located String)) (name : Located String) (after : List (Located String))
    (split : names = before ++ name :: after) (given : name.value ∈ before.map (·.value)) :
    HasAccused tokens items ⟨.duplicate kind name.value, name.location⟩ := by
  obtain ⟨name', hname', hvalue⟩ := List.mem_map.1 given
  have hnames : [name', name].Sublist names := by
    rw [split]
    exact pair_sublist hname'
  obtain ⟨t, u, hsub, ⟨ht, htplace⟩, hu, huplace⟩ := exists_declared hshows isScope hnames
  obtain ⟨text', place'⟩ := name'
  obtain ⟨text, place⟩ := name
  obtain rfl : text' = text := hvalue
  obtain rfl : place' = t.location := htplace
  obtain rfl : place = u.location := huplace
  exact ⟨u, hsub.subset (by simp), rfl, .duplicate isScope hnames hsub ht hu⟩

theorem clauses_sublist (constrains : Constrains items clauses) :
    (clauses.flatMap ConstraintClause.anchors).Sublist (items.flatMap Item.anchors) := by
  obtain ⟨body, isBody, field, isField, kind, base⟩ := constrains
  have htype := (type_sublist isField).trans (body_sublist isBody)
  rwa [← anchors_base, base] at htype

theorem constraint_accused (hshows : Shows tokens (items.flatMap Item.anchors))
    (constrains : Constrains items clauses) {clause : ConstraintClause} (mem : clause ∈ clauses)
    {fault : ConstraintFault} (isNoPair : fault.pair? = none) :
    HasAccused tokens items ⟨.invalidConstraint fault, clause.key.location⟩ ∧
      HasAccused tokens items ⟨.invalidConstraint fault, clause.literal.location⟩ := by
  have hclause := (sublist_flatMap (f := ConstraintClause.anchors) mem).trans (clauses_sublist constrains)
  obtain ⟨t, u, hsub, ⟨ht, htplace⟩, hu, huplace⟩ := (hshows.sublist hclause).exists_two
  refine ⟨⟨t, hsub.subset (by simp), htplace, ?_⟩, u, hsub.subset (by simp), huplace, ?_⟩
  · exact .constraint isNoPair constrains mem (.inl ⟨ht, htplace⟩)
  · exact .constraint isNoPair constrains mem (.inr ⟨hu, huplace⟩)

theorem pair_accused (hshows : Shows tokens (items.flatMap Item.anchors))
    (constrains : Constrains items clauses) {fault : ConstraintFault} {a b : ConstraintKey}
    {before after : List ConstraintClause} {clause : ConstraintClause}
    (isPair : fault.pair? = some (a, b)) (hne : a ≠ b) (split : clauses = before ++ clause :: after)
    (isBound : clause.key? = some a ∨ clause.key? = some b)
    (isLast : ∀ c ∈ after, c.key? ≠ some a ∧ c.key? ≠ some b)
    (first : ∃ c ∈ clauses, c.key? = some a) (second : ∃ c ∈ clauses, c.key? = some b) :
    HasAccused tokens items ⟨.invalidConstraint fault, clause.key.location⟩ := by
  obtain ⟨sooner, isSooner, areBoth⟩ : ∃ c ∈ before,
      c.key? = some a ∧ clause.key? = some b ∨ c.key? = some b ∧ clause.key? = some a := by
    rw [split] at first second
    rcases isBound with ha | hb
    · obtain ⟨c, hc, hcb⟩ := second
      rcases List.mem_append.1 hc with hbefore | hrest
      · exact ⟨c, hbefore, .inr ⟨hcb, ha⟩⟩
      rcases List.mem_cons.1 hrest with rfl | hafter
      · exact absurd (Option.some.inj (ha.symm.trans hcb)) hne
      · exact absurd hcb (isLast c hafter).2
    · obtain ⟨c, hc, hca⟩ := first
      rcases List.mem_append.1 hc with hbefore | hrest
      · exact ⟨c, hbefore, .inl ⟨hca, hb⟩⟩
      rcases List.mem_cons.1 hrest with rfl | hafter
      · exact absurd (Option.some.inj (hca.symm.trans hb)) hne
      · exact absurd hca (isLast c hafter).1
  have hkeys : [sooner.key.asWord, clause.key.asWord].Sublist (clauses.map (·.key.asWord)) := by
    rw [split, List.map_append, List.map_cons]
    exact pair_sublist (List.mem_map_of_mem isSooner)
  obtain ⟨t, u, hsub, ht, hu⟩ := (hshows.sublist
    ((hkeys.trans (keys_sublist clauses)).trans (clauses_sublist constrains))).exists_two
  exact ⟨u, hsub.subset (by simp), hu.2,
    .inverted isPair constrains split isSooner areBoth isLast hsub ht hu⟩

variable [PatternEngine]

theorem constraints_accused (hshows : Shows tokens (items.flatMap Item.anchors))
    (constrains : Constrains items clauses) (h : ConstraintsFault kind clauses f) :
    HasAccused tokens items f := by
  cases h with
  | unknownKey mem unknown => exact (constraint_accused hshows constrains mem rfl).1
  | notApplicable mem known inapplicable => exact (constraint_accused hshows constrains mem rfl).1
  | notNumber mem known wrong => exact (constraint_accused hshows constrains mem rfl).2
  | notLength mem known wrong => exact (constraint_accused hshows constrains mem rfl).2
  | notString mem known wrong => exact (constraint_accused hshows constrains mem rfl).2
  | badPattern mem known isString bad => exact (constraint_accused hshows constrains mem rfl).2
  | givenTwice split given =>
    refine (constraint_accused hshows constrains ?_ rfl).1
    rw [split]
    exact List.mem_append_right _ List.mem_cons_self
  | invertedBounds split isBound isLast minimum maximum inverted =>
    exact pair_accused hshows constrains rfl nofun split isBound isLast (exists_key_of_read minimum)
      (exists_key_of_read maximum)
  | invertedLengths split isBound isLast minLength maxLength inverted =>
    exact pair_accused hshows constrains rfl nofun split isBound isLast (exists_key_of_read minLength)
      (exists_key_of_read maxLength)

theorem field_accused (hshows : Shows tokens (items.flatMap Item.anchors))
    (isBody : body ∈ allBodies items) (isField : field ∈ body)
    (h : FieldFault (typeNames items) field f) : HasAccused tokens items f := by
  have hdefault {literal : Located Literal} {fault : DefaultFault}
      (default : field.default = some literal) :
      HasAccused tokens items ⟨.invalidDefault field.name.value fault, literal.location⟩ := by
    obtain ⟨value, place⟩ := literal
    obtain ⟨t, ht, hvalue, hplace⟩ :=
      (hshows.sublist ((default_sublist isField default).trans (body_sublist isBody))).exists_one
    obtain rfl : place = t.location := hplace
    exact ⟨t, ht, rfl, .default isBody isField default hvalue⟩
  cases h with
  | notScalar default _ => exact hdefault default
  | misfit default _ _ => exact hdefault default
  | type faulty =>
    cases faulty with
    | constraints base faulty =>
      exact constraints_accused hshows ⟨body, isBody, field, isField, _, base⟩ faulty
    | @unresolved name base undeclared =>
      have hname : [name.asWord].Sublist (items.flatMap Item.anchors) := by
        have htype := (type_sublist isField).trans (body_sublist isBody)
        rwa [← anchors_base, base] at htype
      obtain ⟨t, ht, hvalue, hplace⟩ := exists_named hshows hname
      exact ⟨t, ht, hplace, .unresolved hvalue⟩

theorem HasFault.accused (hshows : Shows tokens (items.flatMap Item.anchors)) (h : HasFault items f) :
    HasAccused tokens items f := by
  cases h with
  | @reserved d mem reserved =>
    have hname : [d.name.asWord].Sublist (items.flatMap Item.anchors) :=
      (List.singleton_sublist.2 (List.mem_map_of_mem mem)).trans (declared_sublist items)
    obtain ⟨t, ht, hvalue, hplace⟩ := exists_named hshows hname
    exact ⟨t, ht, hplace, .reserved hvalue⟩
  | @unresolvedRoot root mem undeclared =>
    have hname : [root.asWord].Sublist (items.flatMap Item.anchors) :=
      (List.singleton_sublist.2 (List.mem_map_of_mem mem)).trans (designated_sublist items)
    obtain ⟨t, ht, hvalue, hplace⟩ := exists_named hshows hname
    exact ⟨t, ht, hplace, .unresolved hvalue⟩
  | @duplicateType before after d split given =>
    refine duplicate_accused hshows .types (before.map (·.name)) d.name (after.map (·.name)) ?_ ?_
    · rw [split, List.map_append, List.map_cons]
    · rwa [List.map_map]
  | duplicateRoot split given => exact duplicate_accused hshows .roots _ _ _ split given
  | @body body _ mem faulty =>
    cases faulty with
    | field isField faulty => exact field_accused hshows mem isField faulty
    | @duplicate before after field split given =>
      refine duplicate_accused hshows (.fields mem) (before.map (·.name)) field.name
        (after.map (·.name)) ?_ ?_
      · rw [split, List.map_append, List.map_cons]
      · rwa [List.map_map]

end Accusations

/-- What an error points at in a text. -/
inductive PointsInto [PatternEngine] (text : List Char) : Located Fault → Prop
  | lexical {fault : SyntaxFault} {place : Location} {ts : List (Located Token)}
      {before rest : List Char}
      (isLayout : Layout (fun place' rest' ↦ place' = place ∧ Faulty fault rest') .start ts text)
      (isPlace : IsPlaceIn text before rest place) (isFaulty : Faulty fault rest) :
      PointsInto text ⟨.form fault, place⟩
  | grammar {f : Located SyntaxFault} {tokens : List (Located Token)} {t : Located Token}
      (isSplit : tokenize text = .ok tokens) (isToken : t ∈ tokens) (stands : StandsIn text t)
      (isRefused : Parser.Refused t f) : PointsInto text ⟨.form f.value, f.location⟩
  | declaration {f : Located Fault} {tokens : List (Located Token)} {items : List Item}
      {t : Located Token} (isSplit : tokenize text = .ok tokens) (isRead : parse tokens = .ok items)
      (isToken : t ∈ tokens) (stands : StandsIn text t) (isPlace : f.location = t.location)
      (isFault : HasFault items f) (isAccused : Accused tokens items t f.value) : PointsInto text f

section Errors

variable {text : List Char} {tokens : List (Located Token)} {items : List Item}
  {ts : List (Located Token)} {stops : Location → List Char → Prop} {place : Location}

theorem Layout.ne_endOfInput (h : Layout stops place ts text) : ∀ t ∈ ts, t.value ≠ .endOfInput := by
  induction h with
  | stop => exact List.forall_mem_nil _
  | cons _ spells _ _ ih =>
    refine List.forall_mem_cons.2 ⟨?_, ih⟩
    cases spells <;> exact nofun

theorem shows_of_parse (hsplit : tokenize text = .ok tokens) (h : parse tokens = .ok items) :
    Shows tokens (items.flatMap Item.anchors) := by
  obtain ⟨ts, hlayout, rfl⟩ := exists_layout_of_tokenize hsplit
  have hshows := shows_items (writes_of_parse hlayout.ne_endOfInput h)
  have hall := hshows.append (.none [⟨.endOfInput, Location.start.past text⟩])
  rwa [List.append_nil] at hall

theorem PointsInto.isPlaceIn [PatternEngine] {f : Located Fault} (h : PointsInto text f) :
    ∃ before rest, IsPlaceIn text before rest f.location := by
  cases h with
  | lexical _ isPlace _ => exact ⟨_, _, isPlace⟩
  | grammar _ _ stands isRefused =>
    obtain ⟨before, rest, isPlace, -⟩ := stands
    cases isRefused <;> exact ⟨before, rest, isPlace⟩
  | declaration _ _ _ stands isPlace _ _ =>
    obtain ⟨before, rest, hplace, -⟩ := stands
    exact ⟨before, rest, isPlace ▸ hplace⟩

theorem pointsInto_of_itemsOf [PatternEngine] {text : String} {f : Located Fault}
    (h : itemsOf text = .error f) : PointsInto text.toList f := by
  obtain ⟨fault, hfault, rfl⟩ := mapError_eq_error_iff.1 h
  rcases bind_eq_error_iff.1 hfault with hsplit | ⟨tokens, hsplit, hparse⟩
  · obtain ⟨⟨ts, hlayout⟩, before, rest, hplace, hfaulty⟩ := faulty_of_tokenize hsplit
    exact .lexical hlayout hplace hfaulty
  · obtain ⟨t, ht, hrefused⟩ := refused_of_parse hparse
    exact .grammar hsplit ht (standsIn_of_tokenize hsplit t ht) hrefused

theorem pointsInto_of_resolve [PatternEngine] {text origin : String} {openByDefault : Bool}
    {f : Located Fault} (hitems : itemsOf text = .ok items)
    (h : resolve origin openByDefault items = .error f) : PointsInto text.toList f := by
  obtain ⟨tokens, hsplit, hparse⟩ := bind_eq_ok_iff.1 (mapError_eq_ok_iff.1 hitems)
  obtain ⟨t, ht, hplace, haccused⟩ := (resolve_fault h).accused (shows_of_parse hsplit hparse)
  exact .declaration hsplit hparse ht (standsIn_of_tokenize hsplit t ht) hplace (resolve_fault h) haccused

end Errors

/-- Every error of a text that was read is a fault at a place in the text: the place of what is no token,
or of a token, which is the one that the fault is about. -/
theorem compile_error_points_into_text [PatternEngine] {openByDefault : Bool} {source : Source}
    {error : CompileError} (h : compile openByDefault source = .error error) : ∃ f, error = .faulty source.origin f ∧
      (∃ before rest, IsPlaceIn source.text.toList before rest f.location) ∧
        f.location ≠ ⟨0, 0⟩ ∧ PointsInto source.text.toList f := by
  obtain ⟨f, hf, rfl⟩ := mapError_eq_error_iff.1 h
  have hpoints : PointsInto source.text.toList f := by
    rcases bind_eq_error_iff.1 hf with hitems | ⟨items, hitems, hresolve⟩
    · exact pointsInto_of_itemsOf hitems
    · exact pointsInto_of_resolve hitems hresolve
  obtain ⟨before, rest, hplace⟩ := hpoints.isPlaceIn
  refine ⟨f, rfl, ⟨before, rest, hplace⟩, fun hzero ↦ ?_, hpoints⟩
  have hpos := (Location.of_pos before).1
  rw [← hplace.2, hzero] at hpos
  exact Nat.lt_irrefl 0 hpos

/-- Inverted bounds are so at the one that is written later, here the lower one in the second line. -/
theorem compile_error_points_at_later_bound : ∃ low high,
    compile false ⟨"bounds", "root T \x7b é: integer(max = 1,\n  min = 2) \x7d"⟩ =
      .error (.faulty "bounds" ⟨.invalidConstraint (.invertedBounds low high), ⟨2, 3⟩⟩) ∧
      PointsInto "root T \x7b é: integer(max = 1,\n  min = 2) \x7d".toList
        ⟨.invalidConstraint (.invertedBounds low high), ⟨2, 3⟩⟩ := by
  have hcompile : compile false ⟨"bounds", "root T \x7b é: integer(max = 1,\n  min = 2) \x7d"⟩ =
      .error (.faulty "bounds" ⟨.invalidConstraint (.invertedBounds _ _), ⟨2, 3⟩⟩) := rfl
  obtain ⟨f, hf, -, -, hpoints⟩ := compile_error_points_into_text hcompile
  cases hf
  exact ⟨_, _, hcompile, hpoints⟩

end DocumentSchema.Blueprint
