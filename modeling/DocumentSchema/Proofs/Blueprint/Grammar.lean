import DocumentSchema.Blueprint.Parser

namespace DocumentSchema.Blueprint

def ScalarKind.words : ScalarKind → List String
  | .boolean => ["boolean", "bool"]
  | kind => [kind.keyword]

def Openness.word : Openness → String
  | .open => "open"
  | .closed => "closed"

def mark (p : Punctuation) (place : Location) : Located Token := ⟨.punctuation p, place⟩

def word (text : String) (place : Location) : Located Token := ⟨.word text, place⟩

def bare (name : Located String) : Located Token := word name.value name.location

/-- A mark that may be left out. -/
inductive MayStand (p : Punctuation) : List (Located Token) → Prop
  | absent : MayStand p []
  | present (place : Location) : MayStand p [mark p place]

inductive WritesLiteral : Located Token → Located Literal → Prop
  | number (n : Json.Number) (place : Location) : WritesLiteral ⟨.number n, place⟩ ⟨.number n, place⟩
  | string (s : String) (place : Location) : WritesLiteral ⟨.string s, place⟩ ⟨.string s, place⟩
  | true (place : Location) : WritesLiteral (word "true" place) ⟨.bool true, place⟩
  | false (place : Location) : WritesLiteral (word "false" place) ⟨.bool false, place⟩
  | null (place : Location) : WritesLiteral (word "null" place) ⟨.null, place⟩

inductive WritesConstraint : List (Located Token) → ConstraintClause → Prop
  | mk {key : Located String} {equals : Location} {t : Located Token} {literal : Located Literal}
      (value : WritesLiteral t literal) :
      WritesConstraint [bare key, mark .equals equals, t] ⟨key, literal⟩

/-- Constraints after the parenthesis that opens them, with the one that closes them. A comma may stand
before that, unless there is no constraint. -/
inductive WritesConstraints : List (Located Token) → List ConstraintClause → Prop
  | close (place : Location) : WritesConstraints [mark .closeParenthesis place] []
  | last {ts : List (Located Token)} {clause : ConstraintClause} (first : WritesConstraint ts clause)
      (place : Location) : WritesConstraints (ts ++ [mark .closeParenthesis place]) [clause]
  | cons {ts rest : List (Located Token)} {clause : ConstraintClause}
      {clauses : List ConstraintClause} (first : WritesConstraint ts clause) (comma : Location)
      (others : WritesConstraints rest clauses) :
      WritesConstraints (ts ++ mark .comma comma :: rest) (clause :: clauses)

inductive WritesOpenness : List (Located Token) → Option Openness → Prop
  | silent : WritesOpenness [] none
  | stated (openness : Openness) (place : Location) :
      WritesOpenness [word openness.word place] (some openness)

/-- The name of a field, as a word or in quotes, and the mark before it of one that may be absent. -/
inductive WritesHead : List (Located Token) → Parser.FieldHead → Prop
  | bare (name : Located String) : WritesHead [bare name] ⟨name, false⟩
  | quoted (name : Located String) : WritesHead [⟨.string name.value, name.location⟩] ⟨name, false⟩
  | optional {ts : List (Located Token)} {name : Located String} (place : Location)
      (named : WritesHead ts ⟨name, false⟩) : WritesHead (word "optional" place :: ts) ⟨name, true⟩

inductive WritesDefault : List (Located Token) → Option (Located Literal) → Prop
  | absent : WritesDefault [] none
  | stated {t : Located Token} {literal : Located Literal} (equals : Location)
      (value : WritesLiteral t literal) : WritesDefault [mark .equals equals, t] (some literal)

mutual

inductive WritesType : List (Located Token) → TypeClause → Prop
  | scalar {kind : ScalarKind} {text : String} (isKind : text ∈ kind.words) (place : Location) :
      WritesType [word text place] (.scalar kind [])
  | constrained {kind : ScalarKind} {text : String} {ts : List (Located Token)}
      {clauses : List ConstraintClause} (isKind : text ∈ kind.words) (place opening : Location)
      (constraints : WritesConstraints ts clauses) :
      WritesType (word text place :: mark .openParenthesis opening :: ts) (.scalar kind clauses)
  | named {name : Located String} (isNoKind : ∀ kind : ScalarKind, name.value ∉ kind.words) :
      WritesType [bare name] (.named name)
  | inline {qualifier body : List (Located Token)} {openness : Option Openness} {fields : List Field}
      (qualified : WritesOpenness qualifier openness) (opening : Location)
      (content : WritesFields body fields) :
      WritesType (qualifier ++ mark .openBrace opening :: body) (.inline openness fields)
  | array {ts : List (Located Token)} {item : TypeClause} (element : WritesType ts item)
      (opening closing : Location) :
      WritesType (ts ++ [mark .openBracket opening, mark .closeBracket closing]) (.array item)

/-- The fields of a body, with the brace that closes it. -/
inductive WritesFields : List (Located Token) → List Field → Prop
  | close (place : Location) : WritesFields [mark .closeBrace place] []
  | cons {hd ty df comma rest : List (Located Token)} {head : Parser.FieldHead} {type : TypeClause}
      {default : Option (Located Literal)} {fields : List Field} (named : WritesHead hd head)
      (colon : Location) (typed : WritesType ty type) (defaulted : WritesDefault df default)
      (separated : MayStand .comma comma) (others : WritesFields rest fields) :
      WritesFields (hd ++ mark .colon colon :: (ty ++ (df ++ (comma ++ rest))))
        (⟨head.name, head.isOptional, type, default⟩ :: fields)

end

/-- The word that a declaration with a body begins with, after what it says about openness. -/
def declarationWord (isRoot : Bool) : String := if isRoot then "root" else "type"

inductive WritesItem : List (Located Token) → Item → Prop
  | type {qualifier body : List (Located Token)} {openness : Option Openness} {fields : List Field}
      (qualified : WritesOpenness qualifier openness) (isRoot : Bool) (place : Location)
      (name : Located String) (opening : Location) (content : WritesFields body fields) :
      WritesItem (qualifier ++
          word (declarationWord isRoot) place :: bare name :: mark .openBrace opening :: body)
        (.type ⟨name, isRoot, openness, fields⟩)
  | root {semicolon : List (Located Token)} (place : Location) (name : Located String)
      (ended : MayStand .semicolon semicolon) :
      WritesItem (word "root" place :: bare name :: semicolon) (.root name)

inductive WritesItems : List (Located Token) → List Item → Prop
  | nil : WritesItems [] []
  | cons {ts rest : List (Located Token)} {item : Item} {items : List Item}
      (first : WritesItem ts item) (others : WritesItems rest items) :
      WritesItems (ts ++ rest) (item :: items)

section Limits

mutual

def TypeClause.depth : TypeClause → Nat
  | .inline _ fields => depthWithin fields + 1
  | .array item => item.depth
  | .scalar _ _ | .named _ => 0

def depthWithin : List Field → Nat
  | [] => 0
  | ⟨_, _, type, _⟩ :: rest => max type.depth (depthWithin rest)

end

def TypeClause.brackets : TypeClause → Nat
  | .array item => item.brackets + 1
  | .scalar _ _ | .named _ | .inline _ _ => 0

mutual

/-- The most brackets that a type or one inside it ends in. -/
def TypeClause.mostBrackets : TypeClause → Nat
  | .inline _ fields => mostBracketsWithin fields
  | .array item => max (item.brackets + 1) item.mostBrackets
  | .scalar _ _ | .named _ => 0

def mostBracketsWithin : List Field → Nat
  | [] => 0
  | ⟨_, _, type, _⟩ :: rest => max type.mostBrackets (mostBracketsWithin rest)

end

def Item.depth : Item → Nat
  | .type d => depthWithin d.fields + 1
  | .root _ => 0

def Item.mostBrackets : Item → Nat
  | .type d => mostBracketsWithin d.fields
  | .root _ => 0

/-- Bodies nest within the limit, and no type ends in more brackets than that. -/
def Item.IsShallow (item : Item) : Prop :=
  item.depth ≤ nestingLimit ∧ item.mostBrackets ≤ nestingLimit

theorem TypeClause.brackets_le_mostBrackets (type : TypeClause) : type.brackets ≤ type.mostBrackets := by
  cases type with
  | array item => exact Nat.le_max_left _ _
  | scalar | named | inline => exact Nat.zero_le _

end Limits

section Words

theorem ScalarKind.ofWord?_eq_some_iff {text : String} {kind : ScalarKind} :
    ScalarKind.ofWord? text = some kind ↔ text ∈ kind.words := by
  constructor
  · intro h
    unfold ScalarKind.ofWord? at h
    split at h <;> cases h <;> simp [words, keyword]
  · intro h
    cases kind <;> simp [words, keyword] at h
    case boolean => rcases h with rfl | rfl <;> rfl
    all_goals
      subst h
      rfl

theorem ScalarKind.ofWord?_eq_none_iff {text : String} :
    ScalarKind.ofWord? text = none ↔ ∀ kind : ScalarKind, text ∉ kind.words := by
  rw [Option.eq_none_iff_forall_ne_some]
  exact forall_congr' fun kind ↦ not_congr ofWord?_eq_some_iff

theorem Openness.ofWord?_eq_some_iff {text : String} {openness : Openness} :
    Openness.ofWord? text = some openness ↔ text = openness.word := by
  constructor
  · intro h
    unfold Openness.ofWord? at h
    split at h <;> cases h <;> rfl
  · rintro rfl
    cases openness <;> rfl

theorem Openness.ofWord?_of_mem_words {text : String} {kind : ScalarKind} (h : text ∈ kind.words) :
    Openness.ofWord? text = none := by
  cases kind <;> simp [ScalarKind.words, ScalarKind.keyword] at h
  case boolean => rcases h with rfl | rfl <;> rfl
  all_goals
    subst h
    rfl

theorem writesLiteral_iff {t : Located Token} {literal : Located Literal} :
    WritesLiteral t literal ↔
      Parser.literal? t.value = some literal.value ∧ literal.location = t.location := by
  constructor
  · intro h
    cases h <;> exact ⟨rfl, rfl⟩
  · obtain ⟨token, place⟩ := t
    obtain ⟨value, place'⟩ := literal
    rintro ⟨h, rfl⟩
    unfold Parser.literal? at h
    split at h
    case h_1 hvalue | h_2 hvalue | h_3 hvalue | h_4 hvalue | h_5 hvalue =>
      cases h
      obtain rfl : token = _ := hvalue
      constructor
    case h_6 => cases h

end Words

section Writability

mutual

/-- No named type bears the name of a kind. -/
def TypeClause.AvoidsKinds : TypeClause → Prop
  | .named name => ∀ kind : ScalarKind, name.value ∉ kind.words
  | .inline _ fields => AvoidKinds fields
  | .array item => item.AvoidsKinds
  | .scalar _ _ => True

def AvoidKinds : List Field → Prop
  | [] => True
  | ⟨_, _, type, _⟩ :: rest => type.AvoidsKinds ∧ AvoidKinds rest

end

def Item.AvoidsKinds : Item → Prop
  | .type d => AvoidKinds d.fields
  | .root _ => True

theorem exists_writesLiteral (literal : Located Literal) : ∃ t, WritesLiteral t literal := by
  obtain ⟨value, place⟩ := literal
  cases value with
  | null => exact ⟨_, .null place⟩
  | bool b =>
    cases b with
    | true => exact ⟨_, .true place⟩
    | false => exact ⟨_, .false place⟩
  | number n => exact ⟨_, .number n place⟩
  | string s => exact ⟨_, .string s place⟩

theorem exists_writesConstraints (clauses : List ConstraintClause) :
    ∃ ts, WritesConstraints ts clauses := by
  induction clauses with
  | nil => exact ⟨_, .close .start⟩
  | cons clause clauses ih =>
    obtain ⟨t, value⟩ := exists_writesLiteral clause.literal
    obtain ⟨rest, others⟩ := ih
    have first : WritesConstraint [bare clause.key, mark .equals .start, t] clause := .mk value
    exact ⟨_, .cons first .start others⟩

theorem exists_writesOpenness (openness : Option Openness) : ∃ ts, WritesOpenness ts openness := by
  cases openness with
  | none => exact ⟨_, .silent⟩
  | some openness => exact ⟨_, .stated openness .start⟩

theorem exists_writesHead (head : Parser.FieldHead) : ∃ ts, WritesHead ts head := by
  obtain ⟨name, isOptional⟩ := head
  cases isOptional with
  | false => exact ⟨_, .bare name⟩
  | true => exact ⟨_, .optional .start (.bare name)⟩

theorem exists_writesDefault (default : Option (Located Literal)) :
    ∃ ts, WritesDefault ts default := by
  cases default with
  | none => exact ⟨_, .absent⟩
  | some literal =>
    obtain ⟨t, value⟩ := exists_writesLiteral literal
    exact ⟨_, .stated .start value⟩

mutual

theorem exists_writesType (type : TypeClause) (h : type.AvoidsKinds) : ∃ ts, WritesType ts type := by
  match type, h with
  | .scalar kind clauses, _ =>
    obtain ⟨ts, constraints⟩ := exists_writesConstraints clauses
    have isKind : kind.keyword ∈ kind.words := by
      cases kind <;> exact List.mem_cons_self
    exact ⟨_, .constrained isKind .start .start constraints⟩
  | .named name, h => exact ⟨_, .named h⟩
  | .inline openness fields, h =>
    obtain ⟨qualifier, qualified⟩ := exists_writesOpenness openness
    obtain ⟨body, content⟩ := exists_writesFields fields h
    exact ⟨_, .inline qualified .start content⟩
  | .array item, h =>
    obtain ⟨ts, element⟩ := exists_writesType item h
    exact ⟨_, .array element .start .start⟩

theorem exists_writesFields (fields : List Field) (h : AvoidKinds fields) :
    ∃ ts, WritesFields ts fields := by
  match fields, h with
  | [], _ => exact ⟨_, .close .start⟩
  | ⟨name, isOptional, type, default⟩ :: rest, h =>
    obtain ⟨hd, named⟩ := exists_writesHead ⟨name, isOptional⟩
    obtain ⟨ty, typed⟩ := exists_writesType type h.1
    obtain ⟨df, defaulted⟩ := exists_writesDefault default
    obtain ⟨ts, others⟩ := exists_writesFields rest h.2
    exact ⟨_, .cons named .start typed defaulted .absent others⟩

end

theorem exists_writesItems {items : List Item} (h : ∀ item ∈ items, item.AvoidsKinds) :
    ∃ tokens, WritesItems tokens items := by
  induction items with
  | nil => exact ⟨_, .nil⟩
  | cons item items ih =>
    obtain ⟨hitem, hitems⟩ := List.forall_mem_cons.1 h
    obtain ⟨rest, others⟩ := ih hitems
    cases item with
    | root name => exact ⟨_, .cons (.root .start name .absent) others⟩
    | type d =>
      obtain ⟨qualifier, qualified⟩ := exists_writesOpenness d.openness
      obtain ⟨body, content⟩ := exists_writesFields d.fields hitem
      exact ⟨_, .cons (.type qualified d.isRoot .start d.name .start content) others⟩

end Writability

end DocumentSchema.Blueprint
