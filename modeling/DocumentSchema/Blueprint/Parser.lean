import DocumentSchema.Blueprint.Clause
import DocumentSchema.Blueprint.SyntaxFault

namespace DocumentSchema.Blueprint.Parser

/-- What stands before the type of a field. -/
structure FieldHead where
  name : Located String
  isOptional : Bool
  deriving DecidableEq

/-- What a body belongs to: a declaration, or a field with an object type written in place. -/
inductive Owner where
  | declaration (name : Located String) (isRoot : Bool) (openness : Option Openness)
  | field (head : FieldHead) (openness : Option Openness)
  deriving DecidableEq

/-- An open body with the fields read so far, the latest first. -/
structure Body where
  owner : Owner
  reversed : List Field

/-- What the tokens read so far leave to be read. -/
inductive Phase where
  | item
  | itemKeyword (openness : Openness)
  | typeName (openness : Option Openness)
  | rootName (openness : Option Openness)
  | typeBody (openness : Option Openness) (name : Located String)
  | rootEnd (openness : Option Openness) (name : Located String)
  | field
  | fieldEnd
  | optionalWord (location : Location)
  | fieldColon (head : FieldHead)
  | type (head : FieldHead)
  | opennessWord (head : FieldHead) (openness : Openness) (word : Located String)
  | scalarEnd (head : FieldHead) (kind : ScalarKind)
  | constraintKey (head : FieldHead) (kind : ScalarKind) (reversed : List ConstraintClause)
  | constraintEquals (head : FieldHead) (kind : ScalarKind) (reversed : List ConstraintClause)
      (key : Located String)
  | constraintLiteral (head : FieldHead) (kind : ScalarKind) (reversed : List ConstraintClause)
      (key : Located String)
  | constraintEnd (head : FieldHead) (kind : ScalarKind) (reversed : List ConstraintClause)
  | typeEnd (head : FieldHead) (type : TypeClause) (brackets : Nat)
  | closeBracket (head : FieldHead) (type : TypeClause) (brackets : Nat)
  | defaultLiteral (head : FieldHead) (type : TypeClause)

structure State where
  phase : Phase
  bodies : List Body
  reversed : List Item

def State.start : State := ⟨.item, [], []⟩

abbrev Result (α : Type) := Except (Located SyntaxFault) α

def unexpected {α : Type} (expected : Expectation) (t : Located Token) : Result α :=
  .error ⟨.unexpected expected t.value, t.location⟩

def State.withPhase (s : State) (phase : Phase) : State := { s with phase }

def State.addItem (s : State) (item : Item) : State :=
  { s with phase := .item, reversed := item :: s.reversed }

def State.openBody (s : State) (owner : Owner) (t : Located Token) : Result State :=
  if s.bodies.length = nestingLimit then .error ⟨.tooDeep, t.location⟩
  else .ok { s with phase := .field, bodies := ⟨owner, []⟩ :: s.bodies }

def State.addField (s : State) (head : FieldHead) (type : TypeClause)
    (default : Option (Located Literal)) : State :=
  match s.bodies with
  | [] => s
  | body :: outer =>
    let field := ⟨head.name, head.isOptional, type, default⟩
    { s with phase := .fieldEnd, bodies := { body with reversed := field :: body.reversed } :: outer }

def State.closeBody (s : State) : State :=
  match s.bodies with
  | [] => s
  | ⟨.declaration name isRoot openness, reversed⟩ :: outer =>
    { s with bodies := outer }.addItem (.type ⟨name, isRoot, openness, reversed.reverse⟩)
  | ⟨.field head openness, reversed⟩ :: outer =>
    { s with phase := .typeEnd head (.inline openness reversed.reverse) 0, bodies := outer }

def literal? : Token → Option Literal
  | .number n => some (.number n)
  | .string s => some (.string s)
  | .word "true" => some (.bool true)
  | .word "false" => some (.bool false)
  | .word "null" => some .null
  | _ => none

def stepItemKeyword (s : State) (openness : Option Openness) (t : Located Token) : Result State :=
  match t.value with
  | .word "type" => .ok (s.withPhase (.typeName openness))
  | .word "root" => .ok (s.withPhase (.rootName openness))
  | _ => unexpected .declaration t

def stepItem (s : State) (t : Located Token) : Result State :=
  match t.value with
  | .endOfInput => .ok s
  | .word w =>
    match Openness.ofWord? w with
    | some openness => .ok (s.withPhase (.itemKeyword openness))
    | none => stepItemKeyword s none t
  | _ => stepItemKeyword s none t

def stepRootEnd (s : State) (openness : Option Openness) (name : Located String)
    (t : Located Token) : Result State :=
  match t.value, openness with
  | .punctuation .openBrace, _ => s.openBody (.declaration name true openness) t
  | _, some _ => unexpected .rootBody t
  | .punctuation .semicolon, none => .ok (s.addItem (.root name))
  | _, none => stepItem (s.addItem (.root name)) t

def stepField (s : State) (t : Located Token) : Result State :=
  match t.value with
  | .punctuation .closeBrace => .ok s.closeBody
  | .word "optional" => .ok (s.withPhase (.optionalWord t.location))
  | .word name | .string name => .ok (s.withPhase (.fieldColon ⟨⟨name, t.location⟩, false⟩))
  | _ => unexpected .field t

def stepFieldEnd (s : State) (t : Located Token) : Result State :=
  match t.value with
  | .punctuation .comma => .ok (s.withPhase .field)
  | _ => stepField s t

def stepFieldColon (s : State) (head : FieldHead) (t : Located Token) : Result State :=
  match t.value with
  | .punctuation .colon => .ok (s.withPhase (.type head))
  | _ => unexpected (.mark .colon) t

def stepOptionalWord (s : State) (location : Location) (t : Located Token) : Result State :=
  match t.value with
  | .word name | .string name => .ok (s.withPhase (.fieldColon ⟨⟨name, t.location⟩, true⟩))
  | _ => stepFieldColon s ⟨⟨"optional", location⟩, false⟩ t

/-- After a type: brackets that make it the type of elements, a default, or the end of the field. -/
def stepTypeEnd (s : State) (head : FieldHead) (type : TypeClause) (brackets : Nat)
    (t : Located Token) : Result State :=
  match t.value with
  | .punctuation .openBracket =>
    if brackets = nestingLimit then .error ⟨.tooDeep, t.location⟩
    else .ok (s.withPhase (.closeBracket head type brackets))
  | .punctuation .equals => .ok (s.withPhase (.defaultLiteral head type))
  | _ => stepFieldEnd (s.addField head type none) t

def stepType (s : State) (head : FieldHead) (t : Located Token) : Result State :=
  match t.value with
  | .punctuation .openBrace => s.openBody (.field head none) t
  | .word w =>
    match Openness.ofWord? w, ScalarKind.ofWord? w with
    | some openness, _ => .ok (s.withPhase (.opennessWord head openness ⟨w, t.location⟩))
    | none, some kind => .ok (s.withPhase (.scalarEnd head kind))
    | none, none => .ok (s.withPhase (.typeEnd head (.named ⟨w, t.location⟩) 0))
  | _ => unexpected .type t

def stepOpennessWord (s : State) (head : FieldHead) (openness : Openness) (word : Located String)
    (t : Located Token) : Result State :=
  match t.value with
  | .punctuation .openBrace => s.openBody (.field head (some openness)) t
  | _ => stepTypeEnd s head (.named word) 0 t

def stepScalarEnd (s : State) (head : FieldHead) (kind : ScalarKind) (t : Located Token) :
    Result State :=
  match t.value with
  | .punctuation .openParenthesis => .ok (s.withPhase (.constraintKey head kind []))
  | _ => stepTypeEnd s head (.scalar kind []) 0 t

def stepConstraintKey (s : State) (head : FieldHead) (kind : ScalarKind)
    (reversed : List ConstraintClause) (t : Located Token) : Result State :=
  match t.value with
  | .punctuation .closeParenthesis =>
    .ok (s.withPhase (.typeEnd head (.scalar kind reversed.reverse) 0))
  | .word key => .ok (s.withPhase (.constraintEquals head kind reversed ⟨key, t.location⟩))
  | _ => unexpected .constraintName t

def stepConstraintEnd (s : State) (head : FieldHead) (kind : ScalarKind)
    (reversed : List ConstraintClause) (t : Located Token) : Result State :=
  match t.value with
  | .punctuation .comma => .ok (s.withPhase (.constraintKey head kind reversed))
  | .punctuation .closeParenthesis =>
    .ok (s.withPhase (.typeEnd head (.scalar kind reversed.reverse) 0))
  | _ => unexpected .constraintEnd t

def step (s : State) (t : Located Token) : Result State :=
  match s.phase with
  | .item => stepItem s t
  | .itemKeyword openness => stepItemKeyword s (some openness) t
  | .typeName openness =>
    match t.value with
    | .word name => .ok (s.withPhase (.typeBody openness ⟨name, t.location⟩))
    | _ => unexpected .typeName t
  | .rootName openness =>
    match t.value with
    | .word name => .ok (s.withPhase (.rootEnd openness ⟨name, t.location⟩))
    | _ => unexpected .rootName t
  | .typeBody openness name =>
    match t.value with
    | .punctuation .openBrace => s.openBody (.declaration name false openness) t
    | _ => unexpected (.mark .openBrace) t
  | .rootEnd openness name => stepRootEnd s openness name t
  | .field => stepField s t
  | .fieldEnd => stepFieldEnd s t
  | .optionalWord location => stepOptionalWord s location t
  | .fieldColon head => stepFieldColon s head t
  | .type head => stepType s head t
  | .opennessWord head openness word => stepOpennessWord s head openness word t
  | .scalarEnd head kind => stepScalarEnd s head kind t
  | .constraintKey head kind reversed => stepConstraintKey s head kind reversed t
  | .constraintEquals head kind reversed key =>
    match t.value with
    | .punctuation .equals => .ok (s.withPhase (.constraintLiteral head kind reversed key))
    | _ => unexpected (.mark .equals) t
  | .constraintLiteral head kind reversed key =>
    match literal? t.value with
    | some l => .ok (s.withPhase (.constraintEnd head kind (⟨key, ⟨l, t.location⟩⟩ :: reversed)))
    | none => unexpected .literal t
  | .constraintEnd head kind reversed => stepConstraintEnd s head kind reversed t
  | .typeEnd head type brackets => stepTypeEnd s head type brackets t
  | .closeBracket head type brackets =>
    match t.value with
    | .punctuation .closeBracket => .ok (s.withPhase (.typeEnd head (.array type) (brackets + 1)))
    | _ => unexpected (.mark .closeBracket) t
  | .defaultLiteral head type =>
    match literal? t.value with
    | some l => .ok (s.addField head type (some ⟨l, t.location⟩))
    | none => unexpected .literal t

end Parser

/-- The declarations in a list of tokens. The end of the input, which comes last, is accepted only
between two declarations. -/
def parse (tokens : List (Located Token)) : Parser.Result (List Item) :=
  (tokens.foldlM Parser.step .start).map (·.reversed.reverse)

end DocumentSchema.Blueprint
