import DocumentSchema.Blueprint.Compile
import DocumentSchema.Proofs.Blueprint.Places

namespace DocumentSchema.Blueprint

theorem Located.value_unplaced {α : Type} (part : Located α) : part.unplaced.value = part.value := rfl

def Field.unplaced (field : Field) : Field :=
  ⟨field.name.unplaced, field.isOptional, field.type.unplaced, field.default.map Located.unplaced⟩

theorem unplacedFields_eq_map (fields : List Field) : unplacedFields fields = fields.map Field.unplaced := by
  induction fields with
  | nil => rfl
  | cons field rest ih =>
    rw [List.map_cons, ← ih]
    rfl

namespace Parser

section Unplaced

def FieldHead.unplaced (head : FieldHead) : FieldHead := ⟨head.name.unplaced, head.isOptional⟩

def Owner.unplaced : Owner → Owner
  | .declaration name isRoot openness => .declaration name.unplaced isRoot openness
  | .field head openness => .field head.unplaced openness

def Body.unplaced (body : Body) : Body := ⟨body.owner.unplaced, body.reversed.map Field.unplaced⟩

def Phase.unplaced : Phase → Phase
  | .item => .item
  | .itemKeyword openness => .itemKeyword openness
  | .typeName openness => .typeName openness
  | .rootName openness => .rootName openness
  | .typeBody openness name => .typeBody openness name.unplaced
  | .rootEnd openness name => .rootEnd openness name.unplaced
  | .field => .field
  | .fieldEnd => .fieldEnd
  | .optionalWord _ => .optionalWord .nowhere
  | .fieldColon head => .fieldColon head.unplaced
  | .type head => .type head.unplaced
  | .opennessWord head openness word => .opennessWord head.unplaced openness word.unplaced
  | .scalarEnd head kind => .scalarEnd head.unplaced kind
  | .constraintKey head kind reversed =>
    .constraintKey head.unplaced kind (reversed.map ConstraintClause.unplaced)
  | .constraintEquals head kind reversed key =>
    .constraintEquals head.unplaced kind (reversed.map ConstraintClause.unplaced) key.unplaced
  | .constraintLiteral head kind reversed key =>
    .constraintLiteral head.unplaced kind (reversed.map ConstraintClause.unplaced) key.unplaced
  | .constraintEnd head kind reversed =>
    .constraintEnd head.unplaced kind (reversed.map ConstraintClause.unplaced)
  | .typeEnd head clause brackets => .typeEnd head.unplaced clause.unplaced brackets
  | .closeBracket head clause brackets => .closeBracket head.unplaced clause.unplaced brackets
  | .defaultLiteral head clause => .defaultLiteral head.unplaced clause.unplaced

def State.unplaced (s : State) : State :=
  ⟨s.phase.unplaced, s.bodies.map Body.unplaced, s.reversed.map Item.unplaced⟩

end Unplaced

/-- The same result, with nothing at its place. -/
def Result.unplaced (result : Result State) : Result State :=
  (result.map State.unplaced).mapError Located.unplaced

section Steps

variable (s : State) (t : Located Token) (head : FieldHead) (kind : ScalarKind) (clause : TypeClause)
  (reversed : List ConstraintClause)

theorem openBody_unplaced (owner : Owner) : s.unplaced.openBody owner.unplaced t.unplaced =
    Result.unplaced (s.openBody owner t) := by
  have hlength : s.unplaced.bodies.length = s.bodies.length := List.length_map _
  unfold State.openBody
  rw [hlength]
  split <;> rfl

theorem addField_unplaced (default : Option (Located Literal)) :
    s.unplaced.addField head.unplaced clause.unplaced (default.map Located.unplaced) =
      (s.addField head clause default).unplaced := by
  obtain ⟨phase, bodies, items⟩ := s
  cases bodies <;> rfl

theorem closeBody_unplaced : s.unplaced.closeBody = s.closeBody.unplaced := by
  obtain ⟨phase, bodies, items⟩ := s
  cases bodies with
  | nil => rfl
  | cons body outer =>
    obtain ⟨owner, fields⟩ := body
    have hfields : (fields.map Field.unplaced).reverse = unplacedFields fields.reverse := by
      rw [unplacedFields_eq_map, List.map_reverse]
    cases owner with
    | declaration name isRoot openness =>
      change State.addItem _ (.type ⟨_, _, _, (fields.map Field.unplaced).reverse⟩) = _
      rw [hfields]
      rfl
    | field head openness =>
      change State.mk (.typeEnd _ (.inline _ (fields.map Field.unplaced).reverse) 0) _ _ = _
      rw [hfields]
      rfl

theorem stepItemKeyword_unplaced (openness : Option Openness) :
    stepItemKeyword s.unplaced openness t.unplaced = Result.unplaced (stepItemKeyword s openness t) := by
  unfold stepItemKeyword
  rw [Located.value_unplaced]
  split <;> rfl

theorem stepItem_unplaced : stepItem s.unplaced t.unplaced = Result.unplaced (stepItem s t) := by
  unfold stepItem
  rw [Located.value_unplaced]
  split
  case h_1 => rfl
  case h_2 w _ =>
    cases Openness.ofWord? w with
    | none => exact stepItemKeyword_unplaced s t none
    | some openness => rfl
  case h_3 => exact stepItemKeyword_unplaced s t none

theorem stepRootEnd_unplaced (openness : Option Openness) (name : Located String) :
    stepRootEnd s.unplaced openness name.unplaced t.unplaced =
      Result.unplaced (stepRootEnd s openness name t) := by
  unfold stepRootEnd
  rw [Located.value_unplaced]
  split
  case h_1 => exact openBody_unplaced s t (.declaration name true _)
  case h_2 | h_3 => rfl
  case h_4 => exact stepItem_unplaced (s.addItem (.root name)) t

theorem stepField_unplaced : stepField s.unplaced t.unplaced = Result.unplaced (stepField s t) := by
  unfold stepField
  rw [Located.value_unplaced]
  split
  case h_1 => exact congrArg Except.ok (closeBody_unplaced s)
  all_goals rfl

theorem stepFieldEnd_unplaced :
    stepFieldEnd s.unplaced t.unplaced = Result.unplaced (stepFieldEnd s t) := by
  unfold stepFieldEnd
  rw [Located.value_unplaced]
  split
  case h_1 => rfl
  case h_2 => exact stepField_unplaced s t

theorem stepFieldColon_unplaced : stepFieldColon s.unplaced head.unplaced t.unplaced =
    Result.unplaced (stepFieldColon s head t) := by
  unfold stepFieldColon
  rw [Located.value_unplaced]
  split <;> rfl

theorem stepOptionalWord_unplaced (place : Location) : stepOptionalWord s.unplaced .nowhere t.unplaced =
    Result.unplaced (stepOptionalWord s place t) := by
  unfold stepOptionalWord
  rw [Located.value_unplaced]
  split
  case h_1 | h_2 => rfl
  case h_3 => exact stepFieldColon_unplaced s t ⟨⟨"optional", place⟩, false⟩

theorem stepTypeEnd_unplaced (brackets : Nat) :
    stepTypeEnd s.unplaced head.unplaced clause.unplaced brackets t.unplaced =
      Result.unplaced (stepTypeEnd s head clause brackets t) := by
  unfold stepTypeEnd
  rw [Located.value_unplaced]
  split
  case h_1 => split <;> rfl
  case h_2 => rfl
  case h_3 =>
    rw [← stepFieldEnd_unplaced, ← addField_unplaced]
    rfl

theorem stepType_unplaced :
    stepType s.unplaced head.unplaced t.unplaced = Result.unplaced (stepType s head t) := by
  unfold stepType
  rw [Located.value_unplaced]
  split
  case h_1 => exact openBody_unplaced s t (.field head none)
  case h_2 => split <;> rfl
  case h_3 => rfl

theorem stepOpennessWord_unplaced (openness : Openness) (word : Located String) :
    stepOpennessWord s.unplaced head.unplaced openness word.unplaced t.unplaced =
      Result.unplaced (stepOpennessWord s head openness word t) := by
  unfold stepOpennessWord
  rw [Located.value_unplaced]
  split
  case h_1 => exact openBody_unplaced s t (.field head (some openness))
  case h_2 => exact stepTypeEnd_unplaced s t head (.named word) 0

theorem stepScalarEnd_unplaced : stepScalarEnd s.unplaced head.unplaced kind t.unplaced =
    Result.unplaced (stepScalarEnd s head kind t) := by
  unfold stepScalarEnd
  rw [Located.value_unplaced]
  split
  case h_1 => rfl
  case h_2 => exact stepTypeEnd_unplaced s t head (.scalar kind []) 0

theorem closeConstraints_unplaced :
    s.unplaced.withPhase (.typeEnd head.unplaced
      (.scalar kind (reversed.map ConstraintClause.unplaced).reverse) 0) =
        (s.withPhase (.typeEnd head (.scalar kind reversed.reverse) 0)).unplaced := by
  rw [← List.map_reverse]
  rfl

theorem stepConstraintKey_unplaced :
    stepConstraintKey s.unplaced head.unplaced kind (reversed.map ConstraintClause.unplaced) t.unplaced =
      Result.unplaced (stepConstraintKey s head kind reversed t) := by
  unfold stepConstraintKey
  rw [Located.value_unplaced]
  split
  case h_1 => exact congrArg Except.ok (closeConstraints_unplaced s head kind reversed)
  case h_2 | h_3 => rfl

theorem stepConstraintEnd_unplaced :
    stepConstraintEnd s.unplaced head.unplaced kind (reversed.map ConstraintClause.unplaced) t.unplaced =
      Result.unplaced (stepConstraintEnd s head kind reversed t) := by
  unfold stepConstraintEnd
  rw [Located.value_unplaced]
  split
  case h_2 => exact congrArg Except.ok (closeConstraints_unplaced s head kind reversed)
  case h_1 | h_3 => rfl

theorem step_unplaced : step s.unplaced t.unplaced = Result.unplaced (step s t) := by
  obtain ⟨phase, bodies, items⟩ := s
  cases phase with
  | item => exact stepItem_unplaced _ t
  | itemKeyword openness => exact stepItemKeyword_unplaced _ t _
  | typeName | rootName | constraintEquals | constraintLiteral | closeBracket =>
    simp only [step, State.unplaced, Phase.unplaced]
    rw [Located.value_unplaced]
    split <;> rfl
  | typeBody openness name =>
    simp only [step, State.unplaced, Phase.unplaced]
    rw [Located.value_unplaced]
    split
    case h_1 =>
      exact openBody_unplaced ⟨.typeBody openness name, bodies, items⟩ t
        (.declaration name false openness)
    case h_2 => rfl
  | rootEnd openness name => exact stepRootEnd_unplaced _ t openness name
  | field => exact stepField_unplaced _ t
  | fieldEnd => exact stepFieldEnd_unplaced _ t
  | optionalWord place => exact stepOptionalWord_unplaced _ t place
  | fieldColon head => exact stepFieldColon_unplaced _ t head
  | type head => exact stepType_unplaced _ t head
  | opennessWord head openness word => exact stepOpennessWord_unplaced _ t head openness word
  | scalarEnd head kind => exact stepScalarEnd_unplaced _ t head kind
  | constraintKey head kind reversed => exact stepConstraintKey_unplaced _ t head kind reversed
  | constraintEnd head kind reversed => exact stepConstraintEnd_unplaced _ t head kind reversed
  | typeEnd head clause brackets => exact stepTypeEnd_unplaced _ t head clause brackets
  | defaultLiteral head clause =>
    simp only [step, State.unplaced, Phase.unplaced]
    rw [Located.value_unplaced]
    split
    case h_1 literal _ =>
      refine congrArg Except.ok ?_
      exact addField_unplaced ⟨.defaultLiteral head clause, bodies, items⟩ head clause
        (some ⟨literal, t.location⟩)
    case h_2 => rfl

theorem foldlM_step_unplaced (tokens : List (Located Token)) :
    (tokens.map Located.unplaced).foldlM step s.unplaced = Result.unplaced (tokens.foldlM step s) := by
  induction tokens generalizing s with
  | nil => rfl
  | cons t rest ih =>
    rw [List.map_cons, List.foldlM_cons, List.foldlM_cons, step_unplaced]
    cases step s t with
    | error f => rfl
    | ok s' => exact ih s'

end Steps

end Parser

theorem parse_unplaced (tokens : List (Located Token)) : parse (tokens.map Located.unplaced) =
    ((parse tokens).map (List.map Item.unplaced)).mapError Located.unplaced := by
  have hrun : (tokens.map Located.unplaced).foldlM Parser.step Parser.State.start =
      Parser.Result.unplaced (tokens.foldlM Parser.step Parser.State.start) :=
    Parser.foldlM_step_unplaced .start tokens
  rw [parse, parse, hrun]
  cases tokens.foldlM Parser.step Parser.State.start with
  | error f => rfl
  | ok s =>
    refine congrArg Except.ok ?_
    exact (List.map_reverse).symm

end DocumentSchema.Blueprint
