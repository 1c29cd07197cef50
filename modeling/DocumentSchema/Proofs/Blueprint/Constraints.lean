import DocumentSchema.Proofs.Blueprint.Meaningful
import DocumentSchema.Proofs.Except

namespace DocumentSchema.Blueprint

open DocumentSchema.Except (bind_eq_ok_iff bind_eq_error_iff foldlM_eq_ok_of_prefix
  foldlM_eq_error_of_prefix)

variable {kind : ScalarKind} {clause : ConstraintClause} {fault : Located Fault}

section Literals

theorem number_eq_ok_iff {n : Json.Number} :
    clause.number = .ok n ↔ clause.literal.value.number? = some n := by
  cases h : clause.literal.value <;> simp [ConstraintClause.number, Literal.number?, h, refuse]

theorem number_eq_error (h : clause.number = .error fault) : clause.literal.value.number? = none ∧
    fault = ⟨.invalidConstraint (.notNumber clause.key.value), clause.literal.location⟩ := by
  cases hliteral : clause.literal.value <;>
    simp_all [ConstraintClause.number, Literal.number?, refuse]

theorem length_eq_ok_iff {m : Nat} :
    clause.length = .ok m ↔ clause.literal.value.length? = some m := by
  cases h : clause.literal.value with
  | number n =>
    simp only [ConstraintClause.length, Literal.length?, Literal.number?, h, Option.bind_some]
    cases n.toNat? <;> simp [refuse]
  | null | bool | string =>
    simp [ConstraintClause.length, Literal.length?, Literal.number?, h, refuse]

theorem length_eq_error (h : clause.length = .error fault) : clause.literal.value.length? = none ∧
    fault = ⟨.invalidConstraint (.notLength clause.key.value), clause.literal.location⟩ := by
  cases hliteral : clause.literal.value with
  | number n =>
    simp only [ConstraintClause.length, hliteral] at h
    simp only [Literal.length?, Literal.number?, Option.bind_some]
    cases hlength : n.toNat? <;> simp_all [refuse]
  | null | bool | string =>
    simp_all [ConstraintClause.length, Literal.length?, Literal.number?, refuse]

theorem once_eq_ok_iff {α : Type} {old new : Option α} {value : α} :
    clause.once old value = .ok new ↔ old = none ∧ new = some value := by
  cases old <;> simp [ConstraintClause.once, refuse, eq_comm]

theorem once_eq_error {α : Type} {old : Option α} {value : α}
    (h : clause.once old value = .error fault) : (∃ a, old = some a) ∧
      fault = ⟨.invalidConstraint (.givenTwice clause.key.value), clause.key.location⟩ := by
  cases old <;> simp_all [ConstraintClause.once, refuse]

variable [PatternEngine]

theorem pattern_eq_ok_iff {p : Pattern} :
    clause.pattern = .ok p ↔ clause.literal.value.pattern? = some p := by
  cases h : clause.literal.value with
  | string source =>
    simp only [ConstraintClause.pattern, Literal.pattern?, Literal.string?, h, Option.bind_some,
      Pattern.ofText]
    cases PatternEngine.search source <;> simp [refuse, Except.toOption, Except.map]
  | null | bool | number =>
    simp [ConstraintClause.pattern, Literal.pattern?, Literal.string?, h, refuse]

theorem pattern_eq_error (h : clause.pattern = .error fault) :
    (clause.literal.value.string? = none ∧
      fault = ⟨.invalidConstraint (.notString clause.key.value), clause.literal.location⟩) ∨
    ∃ source reason, clause.literal.value = .string source ∧
      PatternEngine.search source = .error reason ∧
      fault = ⟨.invalidConstraint (.badPattern reason), clause.literal.location⟩ := by
  cases hliteral : clause.literal.value with
  | string source =>
    cases hpattern : Pattern.ofText source with
    | ok p => simp [ConstraintClause.pattern, hliteral, hpattern] at h
    | error reason =>
      simp only [ConstraintClause.pattern, hliteral, hpattern] at h
      exact .inr ⟨source, reason, rfl, Pattern.ofText_eq_error_iff.1 hpattern, (Except.error.inj h).symm⟩
  | null | bool | number => simp_all [ConstraintClause.pattern, Literal.string?, refuse]

end Literals

section Stated

variable {key key' : ConstraintKey} {clauses : List ConstraintClause}

theorem word_unique {word word' : String} (h : ConstraintKey.ofWord? word = some key)
    (h' : ConstraintKey.ofWord? word' = some key) : word = word' := by
  unfold ConstraintKey.ofWord? at h h'
  split at h <;> cases h <;> split at h' <;> first | rfl | cases h'

theorem exists_of_statedLiteral? {literal : Literal} (h : statedLiteral? clauses key = some literal) :
    ∃ c ∈ clauses, c.key? = some key ∧ c.literal.value = literal := by
  obtain ⟨c, hc, rfl⟩ := Option.map_eq_some_iff.1 h
  exact ⟨c, List.mem_of_find?_eq_some hc, by simpa using List.find?_some hc, rfl⟩

theorem given_of_read {α : Type} {read : Literal → Option α} {a : α} (known : clause.key? = some key)
    (h : (statedLiteral? clauses key).bind read = some a) :
    clause.key.value ∈ clauses.map (·.key.value) := by
  obtain ⟨literal, hliteral, -⟩ := Option.bind_eq_some_iff.1 h
  obtain ⟨c, hc, hkey, -⟩ := exists_of_statedLiteral? hliteral
  rw [word_unique known hkey]
  exact List.mem_map_of_mem hc

theorem statedLiteral?_isSome (known : clause.key? = some key)
    (given : clause.key.value ∈ clauses.map (·.key.value)) :
    (statedLiteral? clauses key).isSome := by
  obtain ⟨c, hc, hsame⟩ := List.mem_map.1 given
  rw [statedLiteral?, Option.isSome_map, List.find?_isSome]
  exact ⟨c, hc, by simp [ConstraintClause.key?, hsame, ← known]⟩

theorem statedLiteral?_snoc (known : clause.key? = some key)
    (fresh : clause.key.value ∉ clauses.map (·.key.value)) :
    statedLiteral? (clauses ++ [clause]) key' =
      if key' = key then some clause.literal.value else statedLiteral? clauses key' := by
  rw [statedLiteral?, List.find?_append, List.find?_singleton, known]
  by_cases same : key' = key
  · have hnone : clauses.find? (·.key? = some key') = none := by
      rw [List.find?_eq_none]
      intro c hc hkey
      rw [decide_eq_true_eq, same] at hkey
      exact fresh (List.mem_map.2 ⟨c, hc, word_unique hkey known⟩)
    rw [if_pos same, hnone, same, if_pos (decide_eq_true rfl)]
    rfl
  · have hother : ¬ key = key' := fun h ↦ same h.symm
    simp [same, hother, statedLiteral?]

theorem length?_lt {literal : Literal} {m : Nat} (h : literal.length? = some m) :
    m < 0x10000000000000000 := by
  obtain ⟨n, -, hn⟩ := Option.bind_eq_some_iff.1 h
  cases n with
  | integer value inRange =>
    obtain ⟨_, ⟨rfl, -⟩, rfl⟩ : ∃ a, (value = a ∧ 0 ≤ a) ∧ a.toNat = m := by
      simpa [Json.Number.toNat?, Json.Number.toInt?] using hn
    omega
  | real d => cases hn

theorem statedLength_lt {key : ConstraintKey} {m : Nat}
    (h : (statedLiteral? clauses key).bind Literal.length? = some m) : m < 0x10000000000000000 := by
  obtain ⟨literal, -, hlength⟩ := Option.bind_eq_some_iff.1 h
  exact length?_lt hlength

variable [PatternEngine]

theorem fresh_of_unread {α : Type} {read : Literal → Option α} (known : clause.key? = some key)
    (each : ∀ c ∈ clauses, c.Fits kind)
    (readable : ∀ literal, key.Takes literal → (read literal).isSome)
    (h : (statedLiteral? clauses key).bind read = none) :
    clause.key.value ∉ clauses.map (·.key.value) := by
  intro given
  obtain ⟨literal, hliteral⟩ := Option.isSome_iff_exists.1 (statedLiteral?_isSome known given)
  obtain ⟨c, hc, hkey, rfl⟩ := exists_of_statedLiteral? hliteral
  obtain ⟨-, htakes⟩ := (each c hc).of_key hkey
  rw [hliteral, Option.bind_some] at h
  simpa [h] using readable _ htakes

end Stated

section Gathering

variable [PatternEngine]

/-- Some clauses fit a kind, and constraints are what they state. -/
structure Gathered (kind : ScalarKind) (clauses : List ConstraintClause) (c : Constraints) :
    Prop where
  each : ∀ clause ∈ clauses, clause.Fits kind
  once : (clauses.map (·.key.value)).Nodup
  stated : c = statedConstraints clauses

variable {c c' : Constraints} {clauses before after : List ConstraintClause} {key : ConstraintKey}

theorem gathered_nil : Gathered kind [] .none := ⟨by simp, List.nodup_nil, rfl⟩

theorem Gathered.snoc (h : Gathered kind clauses c) (known : clause.key? = some key)
    (applies : key.appliesTo kind = true) (takes : key.Takes clause.literal.value)
    (fresh : clause.key.value ∉ clauses.map (·.key.value))
    (stated : c' = statedConstraints (clauses ++ [clause])) :
    Gathered kind (clauses ++ [clause]) c' where
  each := by
    intro c hc
    rcases List.mem_append.1 hc with hc | hc
    · exact h.each c hc
    · obtain rfl := List.mem_singleton.1 hc
      exact ⟨key, known, applies, takes⟩
  once := by
    rw [List.map_append, List.nodup_append]
    refine ⟨h.once, by simp, fun word hword other hother ↦ ?_⟩
    obtain rfl := List.mem_singleton.1 hother
    rintro rfl
    exact fresh hword
  stated := stated

theorem addConstraint_gathered (hc : Gathered kind clauses c)
    (h : addConstraint kind c clause = .ok c') : Gathered kind (clauses ++ [clause]) c' := by
  obtain rfl := hc.stated
  unfold addConstraint at h
  split at h
  case h_1 => cases h
  case h_2 key known =>
    split at h
    · cases h
    rename_i happlies
    rw [Bool.not_eq_true', Bool.not_eq_false] at happlies
    cases key
    all_goals
      obtain ⟨value, hvalue, h⟩ := bind_eq_ok_iff.1 h
      obtain ⟨new, hnew, h⟩ := bind_eq_ok_iff.1 h
      obtain ⟨hold, rfl⟩ := once_eq_ok_iff.1 hnew
      obtain rfl := Except.ok.inj h
    case minimum | maximum =>
      rw [number_eq_ok_iff] at hvalue
      have fresh := fresh_of_unread known hc.each (fun _ htakes ↦ htakes) hold
      refine hc.snoc known happlies (by simp [ConstraintKey.Takes, hvalue]) fresh ?_
      simp [statedConstraints, statedLiteral?_snoc known fresh, hvalue]
    case minLength | maxLength =>
      rw [length_eq_ok_iff] at hvalue
      have fresh := fresh_of_unread known hc.each (fun _ htakes ↦ htakes) hold
      refine hc.snoc known happlies (by simp [ConstraintKey.Takes, hvalue]) fresh ?_
      simp [statedConstraints, statedLiteral?_snoc known fresh, hvalue]
    case pattern =>
      rw [pattern_eq_ok_iff] at hvalue
      have fresh := fresh_of_unread known hc.each (fun _ htakes ↦ htakes) hold
      refine hc.snoc known happlies (by simp [ConstraintKey.Takes, hvalue]) fresh ?_
      simp [statedConstraints, statedLiteral?_snoc known fresh, hvalue]

theorem addConstraint_fault (hc : Gathered kind before c)
    (h : addConstraint kind c clause = .error fault) :
    ConstraintsFault kind (before ++ clause :: after) fault := by
  obtain rfl := hc.stated
  have mem : clause ∈ before ++ clause :: after := List.mem_append_right _ List.mem_cons_self
  unfold addConstraint at h
  split at h
  case h_1 unknown =>
    cases h
    exact .unknownKey mem unknown
  case h_2 key known =>
    split at h
    case isTrue inapplicable =>
      cases h
      exact .notApplicable mem known (by simpa using inapplicable)
    case isFalse =>
      -- The key decides how the literal is read; a literal that is read may still come too late.
      cases key
      all_goals
        rcases bind_eq_error_iff.1 h with hvalue | ⟨value, -, h⟩
        case' inr =>
          rcases bind_eq_error_iff.1 h with honce | ⟨new, -, h⟩
          case' inr => cases h
          obtain ⟨⟨a, hold⟩, rfl⟩ := once_eq_error honce
          exact .givenTwice rfl (given_of_read known hold)
      case minimum =>
        obtain ⟨wrong, rfl⟩ := number_eq_error hvalue
        exact .notNumber mem (.inl known) wrong
      case maximum =>
        obtain ⟨wrong, rfl⟩ := number_eq_error hvalue
        exact .notNumber mem (.inr known) wrong
      case minLength =>
        obtain ⟨wrong, rfl⟩ := length_eq_error hvalue
        exact .notLength mem (.inl known) wrong
      case maxLength =>
        obtain ⟨wrong, rfl⟩ := length_eq_error hvalue
        exact .notLength mem (.inr known) wrong
      case pattern =>
        rcases pattern_eq_error hvalue with ⟨wrong, rfl⟩ | ⟨source, reason, isString, bad, rfl⟩
        · exact .notString mem known wrong
        · exact .badPattern mem known isString bad

theorem foldlM_addConstraint_gathered (h : clauses.foldlM (addConstraint kind) .none = .ok c) :
    Gathered kind clauses c :=
  foldlM_eq_ok_of_prefix gathered_nil (fun _ _ _ _ ↦ addConstraint_gathered) h

theorem foldlM_addConstraint_fault (h : clauses.foldlM (addConstraint kind) .none = .error fault) :
    ConstraintsFault kind clauses fault := by
  obtain ⟨before, clause, after, state, rfl, hstate, hfails⟩ :=
    foldlM_eq_error_of_prefix gathered_nil (fun _ _ _ _ ↦ addConstraint_gathered) h
  exact addConstraint_fault hstate hfails

end Gathering

section Order

variable {c c' : Constraints} {clauses : List ConstraintClause} {a b : ConstraintKey}

theorem laterKey_spec (given : ∃ clause ∈ clauses, clause.key? = some a) :
    ∃ before clause after, clauses = before ++ clause :: after ∧
      (clause.key? = some a ∨ clause.key? = some b) ∧
      (∀ c ∈ after, c.key? ≠ some a ∧ c.key? ≠ some b) ∧
      laterKey clauses a b = clause.key.location := by
  let isEither (clause : ConstraintClause) : Bool := clause.key? ∈ [some a, some b]
  have hisEither {clause : ConstraintClause} :
      isEither clause = true ↔ clause.key? = some a ∨ clause.key? = some b := by
    simp [isEither]
  obtain ⟨clause, hclause⟩ : ∃ clause, clauses.reverse.find? isEither = some clause := by
    obtain ⟨clause, hmem, hkey⟩ := given
    rw [← Option.isSome_iff_exists, List.find?_isSome]
    exact ⟨clause, List.mem_reverse.2 hmem, hisEither.2 (.inl hkey)⟩
  obtain ⟨hkey, later, earlier, hsplit, hlater⟩ := List.find?_eq_some_iff_append.1 hclause
  refine ⟨earlier.reverse, clause, later.reverse, ?_, hisEither.1 hkey, fun c hc ↦ ?_, ?_⟩
  · rw [← List.reverse_reverse clauses, hsplit]
    simp
  · have hneither := hlater c (List.mem_reverse.1 hc)
    rw [Bool.not_eq_true', ← Bool.not_eq_true, hisEither, not_or] at hneither
    exact hneither
  · have hlocation : laterKey clauses a b =
        ((clauses.reverse.find? isEither).map (·.key.location)).getD .nowhere := rfl
    rw [hlocation, hclause]
    rfl

theorem exists_key_of_read {α : Type} {read : Literal → Option α} {value : α}
    (h : (statedLiteral? clauses a).bind read = some value) :
    ∃ clause ∈ clauses, clause.key? = some a := by
  obtain ⟨literal, hliteral, -⟩ := Option.bind_eq_some_iff.1 h
  obtain ⟨clause, hmem, hkey, -⟩ := exists_of_statedLiteral? hliteral
  exact ⟨clause, hmem, hkey⟩

theorem checkOrder_of_invertedBounds {low high : Json.Number} (hlow : c.minimum = some low)
    (hhigh : c.maximum = some high) (inverted : low.order high = .gt) :
    checkOrder clauses c = .error
      ⟨.invalidConstraint (.invertedBounds low high), laterKey clauses .minimum .maximum⟩ := by
  simp only [checkOrder, hlow, hhigh, if_pos inverted]
  rfl

theorem checkOrder_of_invertedLengths {low high : Nat}
    (bounds : ∀ low high, c.minimum = some low → c.maximum = some high → low.order high ≠ .gt)
    (hlow : c.minLength = some low) (hhigh : c.maxLength = some high) (inverted : high < low) :
    checkOrder clauses c = .error
      ⟨.invalidConstraint (.invertedLengths low high), laterKey clauses .minLength .maxLength⟩ := by
  cases hminimum : c.minimum <;> cases hmaximum : c.maximum
  case some.some =>
    have hordered := bounds _ _ hminimum hmaximum
    simp only [checkOrder, hminimum, hmaximum, if_neg hordered, hlow, hhigh, if_pos inverted]
    rfl
  all_goals
    simp only [checkOrder, hminimum, hmaximum, hlow, hhigh, if_pos inverted]
    rfl

theorem checkOrder_of_ordered (ordered : c.Ordered) : checkOrder clauses c = .ok c := by
  have hlengths (low high : Nat) (hlow : c.minLength = some low) (hhigh : c.maxLength = some high) :
      ¬ high < low := Nat.not_lt.2 (ordered.lengths low high hlow hhigh)
  cases hminimum : c.minimum <;> cases hmaximum : c.maximum <;>
    cases hminLength : c.minLength <;> cases hmaxLength : c.maxLength
  all_goals
    simp only [checkOrder, hminimum, hmaximum, hminLength, hmaxLength, ordered.bounds, hlengths,
      if_false]
    rfl

theorem checkOrder_cases (c : Constraints) :
    (∃ low high, c.minimum = some low ∧ c.maximum = some high ∧ low.order high = .gt ∧
      ∀ clauses, checkOrder clauses c = .error
        ⟨.invalidConstraint (.invertedBounds low high), laterKey clauses .minimum .maximum⟩) ∨
    (∃ low high, c.minLength = some low ∧ c.maxLength = some high ∧ high < low ∧
      ∀ clauses, checkOrder clauses c = .error
        ⟨.invalidConstraint (.invertedLengths low high),
          laterKey clauses .minLength .maxLength⟩) ∨
    (c.Ordered ∧ ∀ clauses, checkOrder clauses c = .ok c) := by
  by_cases bounds : ∃ low high, c.minimum = some low ∧ c.maximum = some high ∧ low.order high = .gt
  case pos =>
    obtain ⟨low, high, hlow, hhigh, inverted⟩ := bounds
    exact .inl ⟨low, high, hlow, hhigh, inverted,
      fun _ ↦ checkOrder_of_invertedBounds hlow hhigh inverted⟩
  have bounds (low high : Json.Number) (hlow : c.minimum = some low)
      (hhigh : c.maximum = some high) : low.order high ≠ .gt :=
    fun inverted ↦ bounds ⟨low, high, hlow, hhigh, inverted⟩
  by_cases lengths : ∃ low high, c.minLength = some low ∧ c.maxLength = some high ∧ high < low
  case pos =>
    obtain ⟨low, high, hlow, hhigh, inverted⟩ := lengths
    exact .inr (.inl ⟨low, high, hlow, hhigh, inverted,
      fun _ ↦ checkOrder_of_invertedLengths bounds hlow hhigh inverted⟩)
  have lengths (low high : Nat) (hlow : c.minLength = some low)
      (hhigh : c.maxLength = some high) : low ≤ high :=
    Nat.not_lt.1 fun inverted ↦ lengths ⟨low, high, hlow, hhigh, inverted⟩
  exact .inr (.inr ⟨⟨bounds, lengths⟩, fun _ ↦ checkOrder_of_ordered ⟨bounds, lengths⟩⟩)

theorem checkOrder_eq_ok (h : checkOrder clauses c = .ok c') : c' = c ∧ c.Ordered := by
  rcases checkOrder_cases c with ⟨low, high, -, -, -, hchecked⟩ | ⟨low, high, -, -, -, hchecked⟩ |
    ⟨ordered, hchecked⟩
  all_goals
    rw [hchecked] at h
    cases h
  exact ⟨rfl, ordered⟩

variable [PatternEngine]

theorem checkOrder_fault (h : checkOrder clauses (statedConstraints clauses) = .error fault) :
    ConstraintsFault kind clauses fault := by
  rcases checkOrder_cases (statedConstraints clauses) with hbounds | hlengths | ⟨-, hordered⟩
  · obtain ⟨low, high, hlow, hhigh, inverted, hchecked⟩ := hbounds
    obtain ⟨before, clause, after, split, isBound, last, hlater⟩ :=
      laterKey_spec (b := .maximum) (exists_key_of_read hlow)
    rw [hchecked, hlater] at h
    cases h
    exact .invertedBounds split isBound last hlow hhigh inverted
  · obtain ⟨low, high, hlow, hhigh, inverted, hchecked⟩ := hlengths
    obtain ⟨before, clause, after, split, isBound, last, hlater⟩ :=
      laterKey_spec (b := .maxLength) (exists_key_of_read hlow)
    rw [hchecked, hlater] at h
    cases h
    exact .invertedLengths split isBound last hlow hhigh inverted
  · rw [hordered] at h
    cases h

end Order

variable [PatternEngine]

theorem resolveScalar_eq_ok {clauses : List ConstraintClause} {scalar : Scalar}
    (h : resolveScalar kind clauses = .ok scalar) :
    ConstraintsFit kind clauses ∧ scalar = statedScalar kind clauses := by
  obtain ⟨gathered, hgathered, h⟩ := bind_eq_ok_iff.1 h
  obtain ⟨checked, hchecked, h⟩ := bind_eq_ok_iff.1 h
  obtain rfl := Except.ok.inj h
  obtain ⟨rfl, ordered⟩ := checkOrder_eq_ok hchecked
  obtain ⟨each, once, rfl⟩ := foldlM_addConstraint_gathered hgathered
  exact ⟨⟨each, once, ordered⟩, rfl⟩

theorem resolveScalar_fault {clauses : List ConstraintClause}
    (h : resolveScalar kind clauses = .error fault) : ConstraintsFault kind clauses fault := by
  rcases bind_eq_error_iff.1 h with hfold | ⟨gathered, hgathered, h⟩
  · exact foldlM_addConstraint_fault hfold
  obtain rfl := (foldlM_addConstraint_gathered hgathered).stated
  rcases bind_eq_error_iff.1 h with horder | ⟨checked, -, h⟩
  · exact checkOrder_fault horder
  · cases h

section WellFormed

variable {clauses : List ConstraintClause}

theorem Literal.pattern?_eq_some_iff {literal : Literal} {p : Pattern} :
    literal.pattern? = some p ↔
      literal.string? = some p.source ∧ PatternEngine.search p.source = .ok p.isFoundIn := by
  have hsearch (source : String) : (PatternEngine.search source).toOption.map (.mk source) = some p ↔
      Pattern.ofText source = .ok p := by
    rw [Pattern.ofText]
    cases PatternEngine.search source <;> simp [Except.toOption, Except.map]
  rw [pattern?, Option.bind_eq_some_iff]
  simp only [hsearch, Pattern.ofText_eq_ok_iff]
  constructor
  · rintro ⟨_, hstring, rfl, hread⟩
    exact ⟨hstring, hread⟩
  · rintro ⟨hstring, hread⟩
    exact ⟨_, hstring, rfl, hread⟩

theorem statedPattern_read {p : Pattern} (h : (statedConstraints clauses).pattern = some p) :
    PatternEngine.search p.source = .ok p.isFoundIn := by
  obtain ⟨literal, -, hpattern⟩ := Option.bind_eq_some_iff.1 h
  exact (Literal.pattern?_eq_some_iff.1 hpattern).2

theorem ConstraintsFit.appliesTo {key : ConstraintKey} {α : Type} {read : Literal → Option α}
    (h : ConstraintsFit kind clauses) (stated : ((statedLiteral? clauses key).bind read).isSome) :
    key.appliesTo kind = true := by
  obtain ⟨value, hvalue⟩ := Option.isSome_iff_exists.1 stated
  obtain ⟨literal, hliteral, -⟩ := Option.bind_eq_some_iff.1 hvalue
  obtain ⟨clause, hmem, hkey, -⟩ := exists_of_statedLiteral? hliteral
  exact ((h.each clause hmem).of_key hkey).1

theorem statedConstraints_wellFormed (h : ConstraintsFit kind clauses) :
    (statedConstraints clauses).WellFormed kind := by
  refine ⟨?numeric, ?textual, fun _ ↦ statedLength_lt, fun _ ↦ statedLength_lt,
    fun _ ↦ statedPattern_read⟩
  case numeric =>
    rintro (stated | stated)
    all_goals simpa [ConstraintKey.appliesTo] using h.appliesTo stated
  case textual =>
    rintro (stated | stated | stated)
    all_goals simpa [ConstraintKey.appliesTo] using h.appliesTo stated

theorem statedScalar_wellFormed (h : ConstraintsFit kind clauses) :
    (statedScalar kind clauses).WellFormed := ⟨statedConstraints_wellFormed h, h.ordered⟩

end WellFormed

end DocumentSchema.Blueprint
