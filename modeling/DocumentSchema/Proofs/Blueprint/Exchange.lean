import DocumentSchema.Proofs.Blueprint.Derivation
import DocumentSchema.Proofs.Blueprint.Parsing

namespace DocumentSchema.Blueprint

open DocumentSchema.Except (Alike bind_eq_ok_iff map_eq_ok_iff)
open DocumentSchema.Blueprint.Parser

theorem Parser.Stacked.refill {owner : Owner} {fields fields' : List Field} {outer : List Body}
    (h : Stacked true (⟨owner, fields⟩ :: outer)) : Stacked true (⟨owner, fields'⟩ :: outer) := by
  cases h with
  | declaration name isRoot openness => exact .declaration name isRoot openness fields'
  | field head openness _ others => exact .field head openness fields' others

/-- A new type for a field that has no default. -/
structure Exchange where
  head : FieldHead
  old : TypeClause
  new : TypeClause

namespace Exchange

def oldField (x : Exchange) : Field := ⟨x.head.name, x.head.isOptional, x.old, none⟩

def newField (x : Exchange) : Field := ⟨x.head.name, x.head.isOptional, x.new, none⟩

mutual

/-- Types with the field in a body inside them, once with the old type and once with the new one. -/
inductive InType (x : Exchange) : TypeClause → TypeClause → Prop
  | inline {openness : Option Openness} {fields fields' : List Field} (within : InFields x fields fields') :
      InType x (.inline openness fields) (.inline openness fields')
  | array {item item' : TypeClause} (within : InType x item item') : InType x (.array item) (.array item')

inductive InFields (x : Exchange) : List Field → List Field → Prop
  | here (rest : List Field) : InFields x (x.oldField :: rest) (x.newField :: rest)
  | inside {name : Located String} {isOptional : Bool} {type type' : TypeClause}
      {default : Option (Located Literal)} {rest : List Field} (within : InType x type type') :
      InFields x (⟨name, isOptional, type, default⟩ :: rest)
        (⟨name, isOptional, type', default⟩ :: rest)
  | later (field : Field) {rest rest' : List Field} (others : InFields x rest rest') :
      InFields x (field :: rest) (field :: rest')

end

inductive InItems (x : Exchange) : List Item → List Item → Prop
  | here {name : Located String} {isRoot : Bool} {openness : Option Openness} {fields fields' : List Field}
      {rest : List Item} (within : x.InFields fields fields') :
      InItems x (.type ⟨name, isRoot, openness, fields⟩ :: rest)
        (.type ⟨name, isRoot, openness, fields'⟩ :: rest)
  | later (item : Item) {rest rest' : List Item} (others : InItems x rest rest') :
      InItems x (item :: rest) (item :: rest')

/-- Bodies that are still open, with the field among those read so far in one of them. -/
inductive InBodies (x : Exchange) : List Body → List Body → Prop
  | here {owner : Owner} {reversed reversed' : List Field} {outer : List Body}
      (stacked : Stacked true (⟨owner, reversed⟩ :: outer))
      (within : x.InFields reversed.reverse reversed'.reverse) :
      InBodies x (⟨owner, reversed⟩ :: outer) (⟨owner, reversed'⟩ :: outer)
  | outer (body : Body) {bodies bodies' : List Body} (within : InBodies x bodies bodies') :
      InBodies x (body :: bodies) (body :: bodies')

/-- States in the same phase, with the field in an open body or in a declaration that has been read. -/
inductive InRest (x : Exchange) : State → State → Prop
  | body {phase : Phase} {bodies bodies' : List Body} {items : List Item}
      (within : x.InBodies bodies bodies') : InRest x ⟨phase, bodies, items⟩ ⟨phase, bodies', items⟩
  | item {phase : Phase} {bodies : List Body} {items items' : List Item}
      (within : x.InItems items.reverse items'.reverse) :
      InRest x ⟨phase, bodies, items⟩ ⟨phase, bodies, items'⟩

/-- States with the field in what has been read: it may also be in the type that has just been read. -/
inductive InState (x : Exchange) : State → State → Prop
  | rest {s s' : State} (within : x.InRest s s') : InState x s s'
  | typeEnd {type type' : TypeClause} {bodies : List Body} (head : FieldHead) (brackets : Nat)
      (items : List Item) (stacked : Stacked true bodies) (within : x.InType type type') :
      InState x ⟨.typeEnd head type brackets, bodies, items⟩
        ⟨.typeEnd head type' brackets, bodies, items⟩
  | closeBracket {type type' : TypeClause} {bodies : List Body} (head : FieldHead) (brackets : Nat)
      (items : List Item) (stacked : Stacked true bodies) (within : x.InType type type') :
      InState x ⟨.closeBracket head type brackets, bodies, items⟩
        ⟨.closeBracket head type' brackets, bodies, items⟩
  | default {type type' : TypeClause} {bodies : List Body} (head : FieldHead) (items : List Item)
      (stacked : Stacked true bodies) (within : x.InType type type') :
      InState x ⟨.defaultLiteral head type, bodies, items⟩
        ⟨.defaultLiteral head type', bodies, items⟩

section Lists

variable {x : Exchange} {fields fields' : List Field} {items items' : List Item}
  {bodies bodies' : List Body}

theorem InFields.append (h : x.InFields fields fields') (more : List Field) :
    x.InFields (fields ++ more) (fields' ++ more) := by
  induction fields generalizing fields' with
  | nil => cases h
  | cons field rest ih =>
    cases h with
    | here => exact .here _
    | inside within => exact .inside within
    | later _ others => exact .later field (ih others)

theorem InFields.prepend (before : List Field) (h : x.InFields fields fields') :
    x.InFields (before ++ fields) (before ++ fields') := by
  induction before with
  | nil => exact h
  | cons field before ih => exact .later field ih

theorem InItems.append (h : x.InItems items items') (more : List Item) :
    x.InItems (items ++ more) (items' ++ more) := by
  induction h with
  | here within => exact .here within
  | later item _ ih => exact .later item ih

theorem InItems.prepend (before : List Item) (h : x.InItems items items') :
    x.InItems (before ++ items) (before ++ items') := by
  induction before with
  | nil => exact h
  | cons item before ih => exact .later item ih

theorem InBodies.length_eq (h : x.InBodies bodies bodies') : bodies.length = bodies'.length := by
  induction h with
  | here => rfl
  | outer body _ ih => rw [List.length_cons, List.length_cons, ih]

end Lists

section Steps

variable {x : Exchange} {s s' : State}

theorem InRest.length_eq (h : x.InRest s s') : s.bodies.length = s'.bodies.length := by
  cases h with
  | body within => exact within.length_eq
  | item => rfl

theorem InRest.withPhase (h : x.InRest s s') (phase : Phase) :
    x.InRest (s.withPhase phase) (s'.withPhase phase) := by
  cases h with
  | body within => exact .body within
  | item within => exact .item within

theorem InRest.addItem (h : x.InRest s s') (item : Item) : x.InRest (s.addItem item) (s'.addItem item) := by
  cases h with
  | body within => exact .body within
  | @item phase bodies items items' within =>
    refine .item ?_
    rw [List.reverse_cons, List.reverse_cons]
    exact within.append [item]

theorem InRest.openBody (h : x.InRest s s') (owner : Owner) (t : Located Token) :
    Alike x.InState (s.openBody owner t) (s'.openBody owner t) := by
  unfold State.openBody
  rw [h.length_eq]
  split
  · exact .error _
  · cases h with
    | body within => exact .ok (.rest (.body (.outer _ within)))
    | item within => exact .ok (.rest (.item within))

theorem InRest.addField (h : x.InRest s s') (head : FieldHead) (type : TypeClause)
    (default : Option (Located Literal)) :
    x.InRest (s.addField head type default) (s'.addField head type default) := by
  cases h with
  | body within =>
    cases within with
    | here stacked within =>
      refine .body (.here stacked.refill ?_)
      rw [List.reverse_cons, List.reverse_cons]
      exact within.append _
    | outer body within => exact .body (.outer _ within)
  | @item phase bodies items items' within =>
    cases bodies with
    | nil => exact .item within
    | cons body outer => exact .item within

theorem InRest.closeBody (h : x.InRest s s') : x.InState s.closeBody s'.closeBody := by
  cases h with
  | body within =>
    cases within with
    | @here owner reversed reversed' outer stacked within =>
      cases owner with
      | declaration name isRoot openness =>
        refine .rest (.item ?_)
        rw [List.reverse_cons, List.reverse_cons]
        exact (InItems.here within).prepend _
      | field head openness =>
        cases stacked with
        | field _ _ _ others => exact .typeEnd head 0 _ others (.inline within)
    | outer body within =>
      obtain ⟨owner, fields⟩ := body
      cases owner with
      | declaration name isRoot openness => exact .rest (.body within)
      | field head openness => exact .rest (.body within)
  | @item phase bodies items items' within =>
    cases bodies with
    | nil => exact .rest (.item within)
    | cons body outer =>
      obtain ⟨owner, fields⟩ := body
      cases owner with
      | declaration name isRoot openness =>
        have hrest : x.InRest ⟨phase, outer, items⟩ ⟨phase, outer, items'⟩ := .item within
        exact .rest (hrest.addItem _)
      | field head openness => exact .rest (.item within)

theorem inRest_of_addField (x : Exchange) (phase phase' : Phase) {bodies : List Body}
    (items : List Item) (stacked : Stacked true bodies) :
    x.InRest (State.addField ⟨phase, bodies, items⟩ x.head x.old none)
      (State.addField ⟨phase', bodies, items⟩ x.head x.new none) := by
  obtain ⟨body, outer, rfl⟩ := stacked.exists_cons
  refine .body (.here stacked.refill ?_)
  rw [List.reverse_cons, List.reverse_cons]
  exact (InFields.here []).prepend _

theorem InType.addField {type type' : TypeClause} {bodies : List Body} (h : x.InType type type')
    (phase phase' : Phase) (head : FieldHead) (items : List Item) (stacked : Stacked true bodies)
    (default : Option (Located Literal)) :
    x.InRest (State.addField ⟨phase, bodies, items⟩ head type default)
      (State.addField ⟨phase', bodies, items⟩ head type' default) := by
  obtain ⟨body, outer, rfl⟩ := stacked.exists_cons
  refine .body (.here stacked.refill ?_)
  rw [List.reverse_cons, List.reverse_cons]
  exact (InFields.inside h).prepend _

variable (t : Located Token)

theorem InRest.shift (h : x.InRest s s') (phase : Phase) :
    Alike x.InState (.ok (s.withPhase phase) : Result State) (.ok (s'.withPhase phase)) :=
  .ok (.rest (h.withPhase phase))

theorem stepItemKeyword_exchange (h : x.InRest s s') (openness : Option Openness) :
    Alike x.InState (stepItemKeyword s openness t) (stepItemKeyword s' openness t) := by
  unfold stepItemKeyword
  split
  case h_1 | h_2 => exact h.shift _
  case h_3 => exact .error _

theorem stepItem_exchange (h : x.InRest s s') : Alike x.InState (stepItem s t) (stepItem s' t) := by
  unfold stepItem
  split
  case h_1 => exact .ok (.rest h)
  case h_2 w _ =>
    cases Openness.ofWord? w with
    | none => exact stepItemKeyword_exchange t h none
    | some openness => exact h.shift _
  case h_3 => exact stepItemKeyword_exchange t h none

theorem stepRootEnd_exchange (h : x.InRest s s') (openness : Option Openness) (name : Located String) :
    Alike x.InState (stepRootEnd s openness name t) (stepRootEnd s' openness name t) := by
  unfold stepRootEnd
  split
  case h_1 => exact h.openBody _ t
  case h_2 => exact .error _
  case h_3 => exact .ok (.rest (h.addItem _))
  case h_4 => exact stepItem_exchange t (h.addItem _)

theorem stepField_exchange (h : x.InRest s s') : Alike x.InState (stepField s t) (stepField s' t) := by
  unfold stepField
  split
  case h_1 => exact .ok h.closeBody
  case h_2 | h_3 | h_4 => exact h.shift _
  case h_5 => exact .error _

theorem stepFieldEnd_exchange (h : x.InRest s s') :
    Alike x.InState (stepFieldEnd s t) (stepFieldEnd s' t) := by
  unfold stepFieldEnd
  split
  case h_1 => exact h.shift _
  case h_2 => exact stepField_exchange t h

theorem stepFieldColon_exchange (h : x.InRest s s') (head : FieldHead) :
    Alike x.InState (stepFieldColon s head t) (stepFieldColon s' head t) := by
  unfold stepFieldColon
  split
  case h_1 => exact h.shift _
  case h_2 => exact .error _

theorem stepOptionalWord_exchange (h : x.InRest s s') (place : Location) :
    Alike x.InState (stepOptionalWord s place t) (stepOptionalWord s' place t) := by
  unfold stepOptionalWord
  split
  case h_1 | h_2 => exact h.shift _
  case h_3 => exact stepFieldColon_exchange t h _

theorem stepTypeEnd_exchange (h : x.InRest s s') (head : FieldHead) (type : TypeClause) (brackets : Nat) :
    Alike x.InState (stepTypeEnd s head type brackets t) (stepTypeEnd s' head type brackets t) := by
  unfold stepTypeEnd
  split
  case h_1 =>
    split
    · exact .error _
    · exact h.shift _
  case h_2 => exact h.shift _
  case h_3 => exact stepFieldEnd_exchange t (h.addField head type none)

theorem InType.stepTypeEnd {type type' : TypeClause} {bodies : List Body} (h : x.InType type type')
    (head : FieldHead) (brackets : Nat) (items : List Item) (stacked : Stacked true bodies) :
    Alike x.InState (step ⟨.typeEnd head type brackets, bodies, items⟩ t)
      (step ⟨.typeEnd head type' brackets, bodies, items⟩ t) := by
  change Alike _ (Parser.stepTypeEnd _ head type brackets t) (Parser.stepTypeEnd _ head type' brackets t)
  unfold Parser.stepTypeEnd
  split
  case h_1 =>
    split
    · exact .error _
    · exact .ok (.closeBracket head brackets items stacked h)
  case h_2 => exact .ok (.default head items stacked h)
  case h_3 => exact stepFieldEnd_exchange t (h.addField _ _ head items stacked none)

theorem stepType_exchange (h : x.InRest s s') (head : FieldHead) :
    Alike x.InState (stepType s head t) (stepType s' head t) := by
  unfold stepType
  split
  case h_1 => exact h.openBody _ t
  case h_2 => split <;> exact h.shift _
  case h_3 => exact .error _

theorem stepOpennessWord_exchange (h : x.InRest s s') (head : FieldHead) (openness : Openness)
    (word : Located String) :
    Alike x.InState (stepOpennessWord s head openness word t) (stepOpennessWord s' head openness word t) := by
  unfold stepOpennessWord
  split
  case h_1 => exact h.openBody _ t
  case h_2 => exact stepTypeEnd_exchange t h head _ 0

theorem stepScalarEnd_exchange (h : x.InRest s s') (head : FieldHead) (kind : ScalarKind) :
    Alike x.InState (stepScalarEnd s head kind t) (stepScalarEnd s' head kind t) := by
  unfold stepScalarEnd
  split
  case h_1 => exact h.shift _
  case h_2 => exact stepTypeEnd_exchange t h head _ 0

theorem stepConstraintKey_exchange (h : x.InRest s s') (head : FieldHead) (kind : ScalarKind)
    (reversed : List ConstraintClause) :
    Alike x.InState (stepConstraintKey s head kind reversed t)
      (stepConstraintKey s' head kind reversed t) := by
  unfold stepConstraintKey
  split
  case h_1 | h_2 => exact h.shift _
  case h_3 => exact .error _

theorem stepConstraintEnd_exchange (h : x.InRest s s') (head : FieldHead) (kind : ScalarKind)
    (reversed : List ConstraintClause) :
    Alike x.InState (stepConstraintEnd s head kind reversed t)
      (stepConstraintEnd s' head kind reversed t) := by
  unfold stepConstraintEnd
  split
  case h_1 | h_2 => exact h.shift _
  case h_3 => exact .error _

theorem InRest.step (h : x.InRest s s') : Alike x.InState (step s t) (step s' t) := by
  have hphase : s'.phase = s.phase := by cases h <;> rfl
  unfold Parser.step
  rw [hphase]
  cases s.phase with
  | item => exact stepItem_exchange t h
  | itemKeyword openness => exact stepItemKeyword_exchange t h _
  | typeName | rootName | constraintEquals | constraintLiteral | closeBracket =>
    dsimp only
    split
    · exact h.shift _
    · exact .error _
  | typeBody openness name =>
    dsimp only
    split
    · exact h.openBody _ t
    · exact .error _
  | rootEnd openness name => exact stepRootEnd_exchange t h openness name
  | field => exact stepField_exchange t h
  | fieldEnd => exact stepFieldEnd_exchange t h
  | optionalWord place => exact stepOptionalWord_exchange t h place
  | fieldColon head => exact stepFieldColon_exchange t h head
  | type head => exact stepType_exchange t h head
  | opennessWord head openness word => exact stepOpennessWord_exchange t h head openness word
  | scalarEnd head kind => exact stepScalarEnd_exchange t h head kind
  | constraintKey head kind reversed => exact stepConstraintKey_exchange t h head kind reversed
  | constraintEnd head kind reversed => exact stepConstraintEnd_exchange t h head kind reversed
  | typeEnd head type brackets => exact stepTypeEnd_exchange t h head type brackets
  | defaultLiteral head type =>
    dsimp only
    split
    · exact .ok (.rest (h.addField head type _))
    · exact .error _

theorem InState.step (h : x.InState s s') : Alike x.InState (step s t) (step s' t) := by
  cases h with
  | rest within => exact within.step t
  | typeEnd head brackets items stacked within => exact within.stepTypeEnd t head brackets items stacked
  | closeBracket head brackets items stacked within =>
    unfold Parser.step
    dsimp only
    split
    · exact .ok (.typeEnd head (brackets + 1) items stacked (.array within))
    · exact .error _
  | default head items stacked within =>
    unfold Parser.step
    dsimp only
    split
    · exact .ok (.rest (within.addField _ _ head items stacked _))
    · exact .error _

theorem InState.steps (h : x.InState s s') (tokens : List (Located Token)) :
    Alike x.InState (tokens.foldlM Parser.step s) (tokens.foldlM Parser.step s') := by
  induction tokens generalizing s s' with
  | nil => exact .ok h
  | cons t rest ih =>
    rw [List.foldlM_cons, List.foldlM_cons]
    exact (h.step t).bind fun _ _ ↦ ih

theorem InState.items (h : x.InState s s') (complete : s.bodies = []) :
    x.InItems s.reversed.reverse s'.reversed.reverse := by
  have outside {bodies : List Body} (stacked : Stacked true bodies) (empty : bodies = []) : False := by
    obtain ⟨body, outer, rfl⟩ := stacked.exists_cons
    cases empty
  cases h with
  | rest within =>
    cases within with
    | body within =>
      obtain rfl : _ = [] := complete
      cases within
    | item within => exact within
  | typeEnd _ _ _ stacked | closeBracket _ _ _ stacked | default _ _ stacked =>
    exact (outside stacked complete).elim

end Steps

end Exchange

section Parsing

variable {x : Exchange} {s s' : State} {place : Location} {before old new rest : List (Located Token)}
  {t : Located Token} {items : List Item}

/-- What ends the type of a field that has no default. -/
def EndsType (t : Token) : Prop :=
  FollowsType t ∧ t ≠ .punctuation .openBracket ∧ t ≠ .punctuation .equals

/-- The state after a type. -/
def afterType (s : State) (head : FieldHead) (type : TypeClause) (brackets : Nat) : State :=
  s.withPhase (.typeEnd head type brackets)

theorem step_afterType {head : FieldHead} {type : TypeClause} {brackets : Nat}
    (ends : EndsType t.value) : step (afterType s head type brackets) t =
      stepFieldEnd ((afterType s head type brackets).addField head type none) t := by
  obtain ⟨-, noBracket, noEquals⟩ := ends
  change stepTypeEnd _ head type brackets t = _
  unfold stepTypeEnd
  split
  case h_1 value => exact absurd value noBracket
  case h_2 value => exact absurd value noEquals
  case h_3 => rfl

theorem stacked_of_run {tokens : List (Located Token)} (noEnd : ∀ t ∈ tokens, t.value ≠ .endOfInput)
    (h : tokens.foldlM step .start = .ok s) : Stacked s.phase.isInside s.bodies := by
  have hstart : Stacked State.start.phase.isInside State.start.bodies := .outside
  obtain ⟨hstacked, -⟩ : _ ∧ ∀ rest, s.Completes [] rest → State.start.Completes [] (tokens ++ rest) :=
    completes_of_run hstart noEnd h
  exact hstacked

theorem bodies_of_end (stacked : Stacked s.phase.isInside s.bodies)
    (h : step s ⟨.endOfInput, place⟩ = .ok s') : s'.bodies = [] := by
  obtain ⟨phase, bodies, reversed⟩ := s
  cases phase
  case item =>
    cases stacked
    obtain rfl := Except.ok.inj h
    rfl
  case rootEnd openness name =>
    cases stacked
    cases openness with
    | some openness => cases h
    | none =>
      obtain rfl := Except.ok.inj h
      rfl
  all_goals cases h

theorem run_exchange {brackets brackets' : Nat} (stacked : Stacked true s.bodies)
    (readsOld : Leads FollowsType s old (afterType s x.head x.old brackets))
    (readsNew : Leads FollowsType s new (afterType s x.head x.new brackets'))
    (ends : EndsType t.value) (more : List (Located Token)) :
    Alike x.InState ((old ++ t :: more).foldlM step s) ((new ++ t :: more).foldlM step s) := by
  rw [readsOld t more ends.1, readsNew t more ends.1, List.foldlM_cons, List.foldlM_cons,
    step_afterType ends, step_afterType ends]
  have hfield := x.inRest_of_addField (.typeEnd x.head x.old brackets) (.typeEnd x.head x.new brackets')
    s.reversed stacked
  exact (Exchange.stepFieldEnd_exchange t hfield).bind fun _ _ h ↦ h.steps more

theorem parse_exchange (start : before.foldlM step .start = .ok s) (phase : s.phase = .type x.head)
    (readsOld : ∃ brackets, Leads FollowsType s old (afterType s x.head x.old brackets))
    (readsNew : ∃ brackets, Leads FollowsType s new (afterType s x.head x.new brackets))
    (noEnd : ∀ t ∈ before ++ (old ++ rest), t.value ≠ .endOfInput)
    (ends : ∃ t more, rest ++ [⟨.endOfInput, place⟩] = t :: more ∧ EndsType t.value)
    (h : parse (before ++ (old ++ rest) ++ [⟨.endOfInput, place⟩]) = .ok items) :
    ∃ items', parse (before ++ (new ++ rest) ++ [⟨.endOfInput, place⟩]) = .ok items' ∧
      x.InItems items items' := by
  obtain ⟨brackets, readsOld⟩ := readsOld
  obtain ⟨brackets', readsNew⟩ := readsNew
  obtain ⟨t, more, hrest, ends⟩ := ends
  obtain ⟨last, hlast, rfl⟩ := map_eq_ok_iff.1 h
  have hstacked : Stacked s.phase.isInside s.bodies :=
    stacked_of_run (fun t ht ↦ noEnd t (List.mem_append_left _ ht)) start
  rw [phase] at hstacked
  -- All bodies are closed in the end, so the field lies in a declaration.
  have hcomplete : last.bodies = [] := by
    rw [List.foldlM_append] at hlast
    obtain ⟨s', hs', hend⟩ := bind_eq_ok_iff.1 hlast
    obtain ⟨last', hstep, heq⟩ := bind_eq_ok_iff.1 hend
    obtain rfl := Except.ok.inj heq
    exact bodies_of_end (stacked_of_run noEnd hs') hstep
  have hrun (ts : List (Located Token)) :
      (before ++ (ts ++ rest) ++ [(⟨.endOfInput, place⟩ : Located Token)]).foldlM step .start =
        (ts ++ t :: more).foldlM step s := by
    rw [List.append_assoc, List.append_assoc, hrest, List.foldlM_append, start]
    rfl
  have halike := run_exchange hstacked readsOld readsNew ends more
  rw [← hrun old, ← hrun new] at halike
  obtain ⟨last', hlast', hstate⟩ := halike.exists_ok hlast
  refine ⟨last'.reversed.reverse, ?_, hstate.items hcomplete⟩
  rw [parse, hlast']
  rfl

end Parsing

end DocumentSchema.Blueprint
