import DocumentSchema.Proofs.Blueprint.Blame
import DocumentSchema.Proofs.Blueprint.Recognition
import DocumentSchema.Proofs.Blueprint.Slots
import DocumentSchema.Proofs.Schema.Coherence

namespace DocumentSchema

open Blueprint
open Json (Number)

namespace Blueprint.ConstraintKey

def word : ConstraintKey → String
  | minimum => "min"
  | maximum => "max"
  | minLength => "min_length"
  | maxLength => "max_length"
  | pattern => "pattern"

/-- The keys in the order in which constraints are shown. -/
def all : List ConstraintKey := [minimum, maximum, minLength, maxLength, pattern]

theorem ofWord?_word (key : ConstraintKey) : ofWord? key.word = some key := by cases key <;> rfl

theorem mem_all (key : ConstraintKey) : key ∈ all := by cases key <;> decide

end Blueprint.ConstraintKey

theorem Blueprint.Literal.length?_ofNat {m : Nat} (h : m < 0x10000000000000000) :
    Literal.length? (.number (.ofNat m)) = some m := by
  simp [Literal.length?, Literal.number?, Number.ofNat, Number.ofNat?, h, Number.toNat?, Number.toInt?]

namespace Constraints

variable (c : Constraints)

def literal? : ConstraintKey → Option Literal
  | .minimum => c.minimum.map .number
  | .maximum => c.maximum.map .number
  | .minLength => c.minLength.map (.number ∘ .ofNat)
  | .maxLength => c.maxLength.map (.number ∘ .ofNat)
  | .pattern => c.pattern.map fun p ↦ .string p.source

def clause? (key : ConstraintKey) : Option ConstraintClause :=
  (c.literal? key).map fun l ↦ ⟨⟨key.word, .nowhere⟩, ⟨l, .nowhere⟩⟩

def restated : List ConstraintClause := ConstraintKey.all.filterMap c.clause?

variable {c} {kind : ScalarKind} {key : ConstraintKey} {clause : ConstraintClause}

theorem key?_of_clause? (h : c.clause? key = some clause) :
    clause.key? = some key ∧ c.literal? key = some clause.literal.value := by
  obtain ⟨l, hl, rfl⟩ := Option.map_eq_some_iff.1 h
  exact ⟨key.ofWord?_word, hl⟩

theorem statedLiteral?_filterMap (keys : List ConstraintKey) (key : ConstraintKey) :
    statedLiteral? (keys.filterMap c.clause?) key = if key ∈ keys then c.literal? key else .none := by
  induction keys with
  | nil => rfl
  | cons first rest ih =>
    cases hfirst : c.clause? first with
    | none =>
      have hliteral : c.literal? first = .none := Option.map_eq_none_iff.1 hfirst
      rw [List.filterMap_cons_none hfirst, ih]
      by_cases hkey : key = first
      · simp [hkey, hliteral]
      · simp [hkey]
    | some clause =>
      obtain ⟨hknown, hliteral⟩ := key?_of_clause? hfirst
      rw [List.filterMap_cons_some hfirst, statedLiteral?]
      by_cases hkey : key = first
      · rw [List.find?_cons_of_pos (by simp [hknown, hkey])]
        simp [hkey, hliteral]
      · rw [List.find?_cons_of_neg (by simpa [hknown] using Ne.symm hkey)]
        rw [← statedLiteral?, ih]
        simp [hkey]

theorem statedLiteral?_restated (key : ConstraintKey) :
    statedLiteral? c.restated key = c.literal? key := by
  rw [restated, statedLiteral?_filterMap, if_pos key.mem_all]

theorem words_sublist (keys : List ConstraintKey) :
    ((keys.filterMap c.clause?).map (·.key.value)).Sublist (keys.map ConstraintKey.word) := by
  induction keys with
  | nil => exact .refl _
  | cons first rest ih =>
    cases hfirst : c.clause? first with
    | none =>
      rw [List.filterMap_cons_none hfirst]
      exact ih.cons _
    | some clause =>
      obtain ⟨l, -, rfl⟩ := Option.map_eq_some_iff.1 hfirst
      rw [List.filterMap_cons_some hfirst]
      exact ih.cons_cons _

variable [PatternEngine]

theorem statedConstraints_restated (h : c.WellFormed kind) : statedConstraints c.restated = c := by
  obtain ⟨minimum, maximum, minLength, maxLength, pattern⟩ := c
  have hminLength (m : Nat) (hm : minLength = some m) : Literal.length? (.number (.ofNat m)) = some m :=
    Literal.length?_ofNat (h.minLength_lt m hm)
  have hmaxLength (m : Nat) (hm : maxLength = some m) : Literal.length? (.number (.ofNat m)) = some m :=
    Literal.length?_ofNat (h.maxLength_lt m hm)
  simp only [statedConstraints, statedLiteral?_restated, literal?, mk.injEq]
  refine ⟨?_, ?_, ?_, ?_, ?_⟩
  · cases minimum <;> rfl
  · cases maximum <;> rfl
  · cases minLength with
    | none => rfl
    | some m => exact hminLength m rfl
  · cases maxLength with
    | none => rfl
    | some m => exact hmaxLength m rfl
  · cases pattern with
    | none => rfl
    | some p =>
      have hread : (Literal.string p.source).pattern? = some p :=
        Literal.pattern?_eq_some_iff.2 ⟨rfl, h.pattern_read p rfl⟩
      exact hread

theorem fits_of_clause? (h : c.WellFormed kind) (hclause : c.clause? key = some clause) :
    clause.Fits kind := by
  obtain ⟨hknown, hliteral⟩ := key?_of_clause? hclause
  refine ⟨key, hknown, ?_⟩
  cases key with
  | minimum | maximum =>
    obtain ⟨n, hn, hvalue⟩ := Option.map_eq_some_iff.1 hliteral
    rw [← hvalue]
    have hkind : kind = .number ∨ kind = .integer := h.numeric (by simp [hn])
    exact ⟨by simp [ConstraintKey.appliesTo, hkind], rfl⟩
  | minLength =>
    obtain ⟨m, hm, hvalue⟩ := Option.map_eq_some_iff.1 hliteral
    rw [← hvalue]
    have hkind : kind = .string := h.textual (by simp [hm])
    exact ⟨by simp [ConstraintKey.appliesTo, hkind],
      by simp [ConstraintKey.Takes, Literal.length?_ofNat (h.minLength_lt m hm)]⟩
  | maxLength =>
    obtain ⟨m, hm, hvalue⟩ := Option.map_eq_some_iff.1 hliteral
    rw [← hvalue]
    have hkind : kind = .string := h.textual (by simp [hm])
    exact ⟨by simp [ConstraintKey.appliesTo, hkind],
      by simp [ConstraintKey.Takes, Literal.length?_ofNat (h.maxLength_lt m hm)]⟩
  | pattern =>
    obtain ⟨p, hp, hvalue⟩ := Option.map_eq_some_iff.1 hliteral
    rw [← hvalue]
    have hkind : kind = .string := h.textual (by simp [hp])
    exact ⟨by simp [ConstraintKey.appliesTo, hkind],
      Option.isSome_of_eq_some (Literal.pattern?_eq_some_iff.2 ⟨rfl, h.pattern_read p hp⟩)⟩

theorem constraintsFit_restated (h : c.WellFormed kind) (ordered : c.Ordered) :
    ConstraintsFit kind c.restated where
  each clause hclause := by
    obtain ⟨key, -, hkey⟩ := List.mem_filterMap.1 hclause
    exact fits_of_clause? h hkey
  once := (words_sublist _).nodup (by decide)
  ordered := by rwa [statedConstraints_restated h]

end Constraints

theorem Blueprint.resolveScalar_of_fit [PatternEngine] {kind : ScalarKind} {clauses : List ConstraintClause}
    (h : ConstraintsFit kind clauses) : resolveScalar kind clauses = .ok (statedScalar kind clauses) := by
  cases hresolved : resolveScalar kind clauses with
  | ok scalar => rw [(resolveScalar_eq_ok hresolved).2]
  | error fault => exact absurd h (resolveScalar_fault hresolved).not_fit

namespace FieldType

/-- The type as a blueprint gives it, without places. -/
def restated (s : Schema) : FieldType → TypeClause
  | .scalar ⟨kind, c⟩ => .scalar kind c.restated
  | .named id | .inline id => .named ⟨(s.definition id).name, .nowhere⟩
  | .array item => .array (item.restated s)

/-- The type of the same name in another schema, or the same scalar type. -/
def carried (s s' : Schema) : FieldType → FieldType
  | .scalar type => .scalar type
  | .named id => .named (s'.typeNames.idxOf (s.definition id).name)
  | .inline id => .inline id
  | .array item => .array (item.carried s s')

/-- The pairs of brackets that a type ends in. -/
def brackets : FieldType → Nat
  | .array item => item.brackets + 1
  | .scalar _ | .named _ | .inline _ => 0

theorem brackets_restated (s : Schema) (type : FieldType) : (type.restated s).brackets = type.brackets := by
  induction type with
  | scalar | named | inline => rfl
  | array item ih => exact congrArg (· + 1) ih

variable [PatternEngine] {s s' : Schema} {type : FieldType} {openByDefault : Bool} {names : List String}

theorem carried_eq_self (hs : s.WellFormed) (same : s'.typeNames = s.typeNames)
    (declared : ∀ id, type.named? = some id → id < s.typeNames.length) :
    type.carried s s' = type := by
  induction type with
  | scalar | inline => rfl
  | named id =>
    have hid : id < s.typeNames.length := declared id rfl
    obtain ⟨hlt, hname⟩ := List.getElem?_eq_some_iff.1 (hs.typeNames_getElem? hid).1
    rw [carried, same, ← hname, hs.names_nodup.idxOf_getElem id hlt]
  | array item ih => rw [carried, ih declared]

theorem fits_restated (noInline : type.inline? = none)
    (declared : ∀ id, type.named? = some id → (s.definition id).name ∈ names)
    (wellFormed : ∀ scalar, type.scalar? = some scalar → scalar.WellFormed) :
    TypeFits names (type.restated s) := by
  induction type with
  | scalar scalar =>
    obtain ⟨kind, c⟩ := scalar
    have hscalar := wellFormed _ rfl
    refine ⟨nofun, fun kind' clauses h ↦ ?_⟩
    cases h
    exact Constraints.constraintsFit_restated hscalar.constraints hscalar.ordered
  | named id =>
    refine ⟨fun name h ↦ ?_, nofun⟩
    cases h
    exact declared id rfl
  | inline => cases noInline
  | array item ih => exact (ih noInline declared wellFormed).array

theorem plain_restated (noInline : type.inline? = none)
    (wellFormed : ∀ scalar, type.scalar? = some scalar →
      scalar.constraints.WellFormed scalar.kind)
    (fits : TypeFits s'.typeNames (type.restated s)) :
    (scopeOf s' openByDefault).Plain (type.restated s) (type.carried s s') := by
  intro name next
  induction type with
  | scalar scalar =>
    obtain ⟨kind, c⟩ := scalar
    rw [restated, Scope.resolveType, resolveScalar_of_fit (fits.constraints kind c.restated rfl),
      statedScalar, Constraints.statedConstraints_restated (wellFormed _ rfl)]
    rfl
  | named id =>
    have hmem : (s.definition id).name ∈ s'.typeNames := fits.declared _ rfl
    have hplace : s'.typeNames.idxOf? (s.definition id).name =
        some (s'.typeNames.idxOf (s.definition id).name) :=
      List.findIdx?_eq_some_of_exists ⟨_, hmem, beq_self_eq_true _⟩
    rw [restated, Scope.resolveType]
    simp only [scopeOf, hplace]
    rfl
  | inline => cases noInline
  | array item ih =>
    have hitem := ih noInline wellFormed ⟨fits.declared, fits.constraints⟩
    rw [restated, Scope.resolveType, hitem]
    rfl

end FieldType

namespace Blueprint

/-- No field type in the list has more brackets than a limit. -/
def Bracketed (limit : Nat) (types : List TypeDefinition) : Prop :=
  ∀ d ∈ types, ∀ f ∈ d.fields, f.type.brackets ≤ limit

namespace Scope

variable [PatternEngine] {scope : Scope} {limit : Nat}

mutual

theorem resolveType_bracketed {name : String} {next : Nat} {type : FieldType} {inner : List TypeDefinition}
    (clause : TypeClause) (h : scope.resolveType name next clause = .ok (type, inner))
    (hlimit : clause.mostBrackets ≤ limit) : type.brackets = clause.brackets ∧ Bracketed limit inner := by
  cases clause with
  | scalar kind clauses =>
    obtain ⟨-, rfl, rfl⟩ := resolveType_scalar_eq_ok h
    exact ⟨rfl, nofun⟩
  | named named =>
    obtain ⟨id, -, rfl, rfl⟩ := resolveType_named_eq_ok h
    exact ⟨rfl, nofun⟩
  | inline openness fields =>
    obtain ⟨definitions, others, hfields, rfl, rfl⟩ := resolveType_inline_eq_ok h
    obtain ⟨heach, hothers⟩ := resolveFields_bracketed fields hfields hlimit
    exact ⟨rfl, List.forall_mem_cons.2 ⟨heach, hothers⟩⟩
  | array item =>
    obtain ⟨itemType, hitem, rfl⟩ := resolveType_array_eq_ok h
    have hitemLimit : item.mostBrackets ≤ limit := Nat.le_trans (Nat.le_max_right _ _) hlimit
    obtain ⟨hbrackets, hinner⟩ := resolveType_bracketed item hitem hitemLimit
    exact ⟨congrArg (· + 1) hbrackets, hinner⟩

theorem resolveFields_bracketed {owner : String} {next : Nat} {seen : List String}
    {definitions : List FieldDefinition} {inner : List TypeDefinition} (fields : List Field)
    (h : scope.resolveFields owner next seen fields = .ok (definitions, inner))
    (hlimit : mostBracketsWithin fields ≤ limit) :
    (∀ f ∈ definitions, f.type.brackets ≤ limit) ∧ Bracketed limit inner := by
  cases fields with
  | nil =>
    obtain ⟨rfl, rfl⟩ := resolveFields_nil_eq_ok h
    exact ⟨nofun, nofun⟩
  | cons field rest =>
    obtain ⟨name, isOptional, clause, default⟩ := field
    obtain ⟨-, type, own, others, more, htype, -, hrest, rfl, rfl⟩ := resolveFields_cons_eq_ok h
    have hclause : clause.mostBrackets ≤ limit := Nat.le_trans (Nat.le_max_left _ _) hlimit
    obtain ⟨hbrackets, hown⟩ := resolveType_bracketed clause htype hclause
    obtain ⟨hothers, hmore⟩ := resolveFields_bracketed rest hrest (Nat.le_trans (Nat.le_max_right _ _) hlimit)
    refine ⟨List.forall_mem_cons.2 ⟨?_, hothers⟩, List.forall_mem_append.2 ⟨hown, hmore⟩⟩
    dsimp only
    rw [hbrackets]
    exact Nat.le_trans clause.brackets_le_mostBrackets hclause

end

theorem resolveTypes_bracketed {next : Nat} {ds : List TypeDeclaration} {types inner : List TypeDefinition}
    (h : scope.resolveTypes next ds = .ok (types, inner))
    (hlimit : ∀ d ∈ ds, mostBracketsWithin d.fields ≤ limit) : Bracketed limit (types ++ inner) := by
  induction ds generalizing next types inner with
  | nil =>
    cases h
    exact nofun
  | cons d rest ih =>
    obtain ⟨fields, own, others, more, hfields, hrest, rfl, rfl⟩ := resolveTypes_cons_eq_ok h
    obtain ⟨hd, hlimit⟩ := List.forall_mem_cons.1 hlimit
    obtain ⟨heach, hown⟩ := resolveFields_bracketed d.fields hfields hd
    obtain ⟨hothers, hmore⟩ := List.forall_mem_append.1 (ih hrest hlimit)
    exact List.forall_mem_append.2 ⟨List.forall_mem_cons.2 ⟨heach, hothers⟩,
      List.forall_mem_append.2 ⟨hown, hmore⟩⟩

end Scope

open DocumentSchema.Except (bind_eq_ok_iff mapError_eq_ok_iff)

theorem compile_bracketed [PatternEngine] {openByDefault : Bool} {source : Source} {s : Schema}
    (compiled : compile openByDefault source = .ok s) : Bracketed nestingLimit s.types := by
  obtain ⟨items, hitems, hresolve⟩ := compile_eq_ok compiled
  obtain ⟨tokens, hsplit, hparse⟩ := bind_eq_ok_iff.1 (mapError_eq_ok_iff.1 hitems)
  obtain ⟨ts, hlayout, rfl⟩ := exists_layout_of_tokenize hsplit
  have hshallow := shallow_of_parse (writes_of_parse hlayout.ne_endOfInput hparse) hparse
  obtain ⟨types, inner, roots, rfl, -, -, hresolved, -⟩ := resolve_passes hresolve
  exact Scope.resolveTypes_bracketed hresolved fun d hd ↦ (hshallow _ (mem_declarations_iff.1 hd)).2

end Blueprint

end DocumentSchema
