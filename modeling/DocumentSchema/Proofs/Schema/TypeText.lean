import DocumentSchema.Proofs.Blueprint.Printing
import DocumentSchema.Proofs.Schema.Restating

namespace DocumentSchema

open Blueprint
open Json (Number)

section Names

variable {openByDefault : Bool} {source : Source} {s : Schema}

variable [PatternEngine]

theorem Blueprint.spells_of_compile (compiled : compile openByDefault source = .ok s) :
    ∀ name ∈ s.typeNames, Spells (.word name) name.toList := by
  intro name hname
  obtain ⟨items, hitems, hresolve⟩ := compile_eq_ok compiled
  obtain ⟨tokens, hsplit, hparse⟩ := Except.bind_eq_ok_iff.1 (Except.mapError_eq_ok_iff.1 hitems)
  rw [resolve_typeNames hresolve] at hname
  obtain ⟨d, hd, rfl⟩ := List.mem_map.1 hname
  have hanchor : [d.name.asWord].Sublist (items.flatMap Item.anchors) :=
    (List.singleton_sublist.2 (List.mem_map_of_mem hd)).trans (declared_sublist items)
  obtain ⟨t, ht, isToken, -⟩ := ((shows_of_parse hsplit hparse).sublist hanchor).exists_one
  obtain ⟨before, rest, -, heads⟩ := standsIn_of_tokenize hsplit t ht
  have hword : t.value = .word d.name.value := isToken
  rw [hword] at heads
  generalize d.name.value = name at heads
  cases heads with
  | spelled spells =>
    cases spells with
    | word starts continues =>
      rw [String.toList_ofList]
      exact .word starts continues

theorem Blueprint.notKind_of_compile (compiled : compile openByDefault source = .ok s) :
    ∀ name ∈ s.typeNames, ∀ kind : ScalarKind, name ∉ kind.words := by
  intro name hname kind hkind
  obtain ⟨items, -, hresolve⟩ := compile_eq_ok compiled
  rw [resolve_typeNames hresolve] at hname
  refine (resolve_meaningful hresolve).unreserved name hname ?_
  rw [← ofWord?_isSome_iff, ScalarKind.ofWord?_eq_some_iff.2 hkind]
  rfl

end Names

theorem mapM_eq_none_of_mem {α β : Type} {f : α → Option β} {l : List α} {a : α} (ha : a ∈ l)
    (h : f a = none) : l.mapM f = none := by
  induction l with
  | nil => cases ha
  | cons first rest ih =>
    rw [List.mapM_cons]
    rcases List.mem_cons.1 ha with rfl | hrest
    · rw [h]
      rfl
    · rw [ih hrest]
      cases f first <;> rfl

theorem Json.Number.text_ofNat {m : Nat} (h : m < 0x10000000000000000) :
    (Number.ofNat m).text = Nat.toDigits 10 m := by
  simp [Number.ofNat, Number.ofNat?, h, Number.text]

theorem Blueprint.ScalarKind.spells_keyword (kind : ScalarKind) :
    Spells (.word kind.keyword) kind.keyword.toList := by
  cases kind <;> exact spells_word rfl (by decide +kernel)

theorem Blueprint.ConstraintKey.spells_word (key : ConstraintKey) :
    Spells (.word key.word) key.word.toList := by
  cases key <;> exact Blueprint.spells_word rfl (by decide +kernel)

namespace Constraints

variable {c : Constraints} {kind : ScalarKind} {key : ConstraintKey} {clause : ConstraintClause}

theorem map_text_clause? (key : ConstraintKey) {α : Type} {value : Option α} {text : α → List Char}
    {literal : α → Literal} (hliteral : c.literal? key = value.map literal)
    (htext : ∀ v, value = some v → (literal v).text = text v) :
    (c.clause? key).toList.map ConstraintClause.text =
      value.toList.map fun v ↦ key.word.toList ++ " = ".toList ++ text v := by
  rw [clause?, hliteral]
  cases value with
  | none => rfl
  | some v => exact congrArg (fun t ↦ [key.word.toList ++ " = ".toList ++ t]) (htext v rfl)

theorem map_unplaced_restated (c : Constraints) :
    c.restated.map ConstraintClause.unplaced = c.restated := by
  refine (List.map_congr_left fun clause hclause ↦ ?_).trans (List.map_id _)
  obtain ⟨key, -, hkey⟩ := List.mem_filterMap.1 hclause
  obtain ⟨l, -, rfl⟩ := Option.map_eq_some_iff.1 hkey
  rfl

/-- The constraints with bounds that the texts of the bounds are read as. -/
def reread (c : Constraints) : Constraints :=
  { c with
    minimum := c.minimum.bind fun n ↦ Number.ofText? n.text
    maximum := c.maximum.bind fun n ↦ Number.ofText? n.text }

/-- The texts of all literals in the constraints are read as literals. -/
def IsReadable (c : Constraints) : Prop := ∀ key l, c.literal? key = some l → ∃ l', l.reread? = some l'

theorem reread?_ofNat {m : Nat} (h : m < 0x10000000000000000) :
    (Literal.number (.ofNat m)).reread? = some (.number (.ofNat m)) := by
  have hrange : Json.InRange m := by omega
  have hinteger : Number.ofNat m = .integer m hrange := by simp [Number.ofNat, Number.ofNat?, h]
  have htext : (Number.integer m hrange).text = Json.decimal m := rfl
  rw [hinteger, Literal.reread?, htext, Number.ofText?_decimal hrange]
  rfl

theorem mapM_reread?_eq_none (h : ¬ c.IsReadable) : c.restated.mapM ConstraintClause.reread? = .none := by
  simp only [IsReadable, not_forall] at h
  obtain ⟨key, l, hvalue, hread⟩ := h
  have hclause : c.clause? key = some ⟨⟨key.word, .nowhere⟩, ⟨l, .nowhere⟩⟩ := by rw [clause?, hvalue]; rfl
  refine mapM_eq_none_of_mem (List.mem_filterMap.2 ⟨key, key.mem_all, hclause⟩) ?_
  have hnone : l.reread? = .none := by
    rw [Option.eq_none_iff_forall_ne_some]
    exact fun l' hl' ↦ hread ⟨l', hl'⟩
  rw [ConstraintClause.reread?, hnone]
  rfl

variable [PatternEngine]

theorem clauses_eq (h : c.WellFormed kind) : c.clauses = c.restated.map ConstraintClause.text := by
  have hminimum := map_text_clause? (c := c) .minimum rfl fun v _ ↦ (rfl : _ = v.text)
  have hmaximum := map_text_clause? (c := c) .maximum rfl fun v _ ↦ (rfl : _ = v.text)
  have hminLength := map_text_clause? (c := c) .minLength rfl fun m hm ↦
    Number.text_ofNat (h.minLength_lt m hm)
  have hmaxLength := map_text_clause? (c := c) .maxLength rfl fun m hm ↦
    Number.text_ofNat (h.maxLength_lt m hm)
  have hpattern := map_text_clause? (c := c) .pattern rfl fun p _ ↦
    (rfl : _ = Text.quotedString p.source.toList)
  rw [restated, ConstraintKey.all, List.filterMap_eq_flatMap_toList]
  simp only [List.flatMap_cons, List.flatMap_nil, List.append_nil, List.map_append, hminimum, hmaximum,
    hminLength, hmaxLength, hpattern]
  simp only [clauses, List.append_assoc]
  rfl

theorem literal?_reread (h : c.WellFormed kind) (readable : c.IsReadable) (key : ConstraintKey) :
    c.reread.literal? key = (c.literal? key).bind Literal.reread? := by
  have hlength {value : Option Nat} (hvalue : ∀ m, value = some m → m < 0x10000000000000000) :
      value.map (Literal.number ∘ .ofNat) =
        (value.map (Literal.number ∘ .ofNat)).bind Literal.reread? := by
    cases value with
    | none => rfl
    | some m => exact (reread?_ofNat (hvalue m rfl)).symm
  cases key with
  | minimum => cases hminimum : c.minimum <;> simp [literal?, reread, hminimum, Literal.reread?]
  | maximum => cases hmaximum : c.maximum <;> simp [literal?, reread, hmaximum, Literal.reread?]
  | minLength => exact hlength h.minLength_lt
  | maxLength => exact hlength h.maxLength_lt
  | pattern =>
    change c.literal? .pattern = _
    cases hpattern : c.literal? .pattern with
    | none => rfl
    | some l =>
      obtain ⟨l', hread⟩ := readable _ _ hpattern
      obtain ⟨p, -, rfl⟩ := Option.map_eq_some_iff.1 hpattern
      rw [Option.bind_some, hread]
      rw [Literal.reread?] at hread
      split at hread
      · exact hread
      · cases hread

theorem filterMap_reread (h : c.WellFormed kind) (readable : c.IsReadable) (keys : List ConstraintKey) :
    (keys.filterMap c.clause?).mapM ConstraintClause.reread? = some (keys.filterMap c.reread.clause?) := by
  induction keys with
  | nil => rfl
  | cons key rest ih =>
    have hliteral := literal?_reread h readable key
    cases hvalue : c.literal? key with
    | none =>
      have hclause : c.clause? key = .none := by rw [clause?, hvalue, Option.map_none]
      have hclause' : c.reread.clause? key = .none := by rw [clause?, hliteral, hvalue]; rfl
      rw [List.filterMap_cons_none hclause, List.filterMap_cons_none hclause', ih]
    | some l =>
      obtain ⟨l', hread⟩ := readable key l hvalue
      have hclause : c.clause? key = some ⟨⟨key.word, .nowhere⟩, ⟨l, .nowhere⟩⟩ := by rw [clause?, hvalue]; rfl
      have hclause' : c.reread.clause? key = some ⟨⟨key.word, .nowhere⟩, ⟨l', .nowhere⟩⟩ := by
        rw [clause?, hliteral, hvalue, Option.bind_some, hread]
        rfl
      rw [List.filterMap_cons_some hclause, List.filterMap_cons_some hclause', List.mapM_cons, ih,
        ConstraintClause.reread?, hread]
      rfl

theorem mapM_reread? (h : c.WellFormed kind) (readable : c.IsReadable) :
    c.restated.mapM ConstraintClause.reread? = some c.reread.restated := filterMap_reread h readable _

end Constraints

/-- The tokens of a scalar type with constraints that are clauses. -/
def Blueprint.ScalarKind.tokens (kind : ScalarKind) (clauses : List ConstraintClause) : List Token :=
  .word kind.keyword :: match clauses with
    | [] => []
    | clauses => .punctuation .openParenthesis :: constraintTokens clauses

/-- The tokens of a type. A type written in place goes by its made-up name. -/
def Schema.typeTokens (s : Schema) : FieldType → List Token
  | .scalar ⟨kind, c⟩ => kind.tokens c.restated
  | .named id | .inline id => [.word (s.definition id).name]
  | .array item => s.typeTokens item ++ [.punctuation .openBracket, .punctuation .closeBracket]

namespace FieldType

def reread : FieldType → FieldType
  | .scalar ⟨kind, c⟩ => .scalar ⟨kind, c.reread⟩
  | .named id => .named id
  | .inline id => .inline id
  | .array item => .array item.reread

def IsReadable (type : FieldType) : Prop :=
  ∀ scalar, type.scalar? = some scalar → scalar.constraints.IsReadable

end FieldType

section Scanning

variable {s : Schema} {type : FieldType} {scalar : Scalar}

theorem key_spells {c : Constraints} :
    ∀ clause ∈ c.restated, Spells (.word clause.key.value) clause.key.value.toList := by
  intro clause hclause
  obtain ⟨key, -, hkey⟩ := List.mem_filterMap.1 hclause
  obtain ⟨l, -, rfl⟩ := Option.map_eq_some_iff.1 hkey
  exact key.spells_word

open Parser in
theorem leads_type (notKind : ∀ id, type.target? = some id → ∀ kind : ScalarKind,
      (s.definition id).name ∉ kind.words) (hbrackets : (type.restated s).brackets ≤ nestingLimit)
    (head : FieldHead) (body : Body) (outer : List Body) (items : List Item) :
    Leads FollowsType ⟨.type head, body :: outer, items⟩ ((s.typeTokens type).map Token.unplaced)
      ⟨.typeEnd head (type.restated s) (type.restated s).brackets, body :: outer, items⟩ := by
  induction type with
  | scalar scalar =>
    obtain ⟨kind, c⟩ := scalar
    have isKind : kind.keyword ∈ kind.words := by
      cases kind <;> simp [ScalarKind.words, ScalarKind.keyword]
    have hunplaced := c.map_unplaced_restated
    change Leads _ _ ((kind.tokens c.restated).map _) ⟨.typeEnd head (.scalar kind c.restated) 0, _, _⟩
    generalize c.restated = clauses at hunplaced
    have hwrites := writes_constraints clauses
    rw [hunplaced] at hwrites
    cases clauses with
    | nil => exact .of_step _ (stepType_of_kind isKind .nowhere) fun _ ↦ stepScalarEnd_of_follows
    | cons clause rest =>
      refine .cons _ (stepType_of_kind isKind .nowhere) ?_
      refine .cons ⟨.constraintKey head kind [], body :: outer, items⟩ rfl ?_
      exact (reads_constraints [] hwrites).mono fun _ _ ↦ trivial
  | named id | inline id =>
    change Leads _ _ [bare ⟨(s.definition id).name, .nowhere⟩] ⟨.typeEnd head (.named _) 0, _, _⟩
    exact reads_named (notKind id rfl)
  | array item ih =>
    have hitem := ih notKind (Nat.le_of_succ_le hbrackets)
    have hroom : (item.restated s).brackets < nestingLimit := hbrackets
    have hpair := (reads_brackets head (body :: outer) items hroom.le .nowhere .nowhere).leads hroom
    have follows : FollowsType (.punctuation .openBracket) := by simp [FollowsType]
    rw [Schema.typeTokens, List.map_append]
    exact (hitem.trans (.cons (t := mark .openBracket .nowhere) follows) hpair).mono
      fun _ _ ↦ trivial

variable [PatternEngine]

theorem Scalar.text_eq (h : scalar.constraints.WellFormed scalar.kind) :
    scalar.text = scalar.kind.keyword.toList ++ match scalar.constraints.restated with
      | [] => []
      | clauses => '(' :: ([',', ' '].intercalate (clauses.map ConstraintClause.text) ++ [')']) := by
  rw [text, Constraints.clauses_eq h]
  cases scalar.constraints.restated with
  | nil => exact (List.append_nil _).symm
  | cons clause rest =>
    change _ ++ _ :: _ ++ _ = _
    rw [List.append_assoc, List.cons_append]

theorem scans_scalar (h : scalar.constraints.WellFormed scalar.kind) : Scans scalar.text
    ((scalar.constraints.restated.mapM ConstraintClause.reread?).map scalar.kind.tokens) := by
  rw [scalar.text_eq h]
  have hkeys := key_spells (c := scalar.constraints)
  generalize scalar.constraints.restated = clauses at hkeys
  cases clauses with
  | nil =>
    rw [List.append_nil]
    exact .spelled scalar.kind.spells_keyword
  | cons clause rest =>
    have hconstraints := (scans_constraints (List.cons_ne_nil _ _) hkeys).markBefore .openParenthesis
    have hscans := hconstraints.token scalar.kind.spells_keyword fun _ _ _ ↦ .mark .openParenthesis _
    rw [List.mapM_cons] at hscans ⊢
    cases hclause : clause.reread? <;> cases hrest : rest.mapM ConstraintClause.reread? <;>
      simpa [hclause, hrest, Punctuation.char, ScalarKind.tokens] using hscans

section Types

variable (spelled : ∀ id, type.target? = some id →
    Spells (.word (s.definition id).name) (s.definition id).name.toList)
  (wellFormed : ∀ scalar, type.scalar? = some scalar → scalar.constraints.WellFormed scalar.kind)

include spelled wellFormed

theorem scans_typeText (readable : type.IsReadable) :
    Scans (s.typeText type) (some (s.typeTokens type.reread)) := by
  induction type with
  | scalar scalar =>
    obtain ⟨kind, c⟩ := scalar
    have hscans := scans_scalar (wellFormed _ rfl)
    rwa [Constraints.mapM_reread? (wellFormed _ rfl) (readable _ rfl)] at hscans
  | named id | inline id => exact .spelled (spelled id rfl)
  | array item ih =>
    have hclose : Scans [']'] (some [.punctuation .closeBracket]) := .spelled (.punctuation .closeBracket)
    exact (ih spelled wellFormed readable).append (fun _ _ ↦ .mark .openBracket _)
      (hclose.markBefore .openBracket)

theorem scans_typeText_of_not_readable (hread : ¬ type.IsReadable) : Scans (s.typeText type) none := by
  induction type with
  | scalar scalar =>
    have hscans := scans_scalar (wellFormed _ rfl)
    rwa [Constraints.mapM_reread?_eq_none fun h ↦ hread fun scalar' hscalar' ↦ by
      obtain rfl := Option.some.inj hscalar'
      exact h] at hscans
  | named id | inline id => exact (hread fun scalar hscalar ↦ by cases hscalar).elim
  | array item ih =>
    have hclose : Scans [']'] (some [.punctuation .closeBracket]) := .spelled (.punctuation .closeBracket)
    exact (ih spelled wellFormed hread).append (fun _ _ ↦ .mark .openBracket _)
      (hclose.markBefore .openBracket)

end Types

end Scanning

end DocumentSchema
