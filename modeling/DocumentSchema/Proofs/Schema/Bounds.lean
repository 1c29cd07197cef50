import DocumentSchema.Pattern.Engine
import DocumentSchema.Proofs.Blueprint.Literals
import DocumentSchema.Proofs.Blueprint.Matching
import DocumentSchema.Proofs.Schema.References
import DocumentSchema.Proofs.Validation.Report
import DocumentSchema.Proofs.Validation.SingleFault

namespace DocumentSchema

open Blueprint (Field Source compile)
open Json (InRange Number Value)
open JsonSchema
open Validation

def Constraints.between (low high : Number) : Constraints := ⟨some low, some high, .none, .none, .none⟩

section Between

variable {low high n : Int} {lowInRange : InRange low} {highInRange : InRange high}
  {inRange : InRange n} {kind : Blueprint.ScalarKind}

theorem ordered_between_iff :
    (Constraints.between (.integer low lowInRange) (.integer high highInRange)).Ordered ↔
      low ≤ high := by
  constructor
  · intro h
    exact Int.not_lt.1 fun hlt ↦ h.bounds _ _ rfl rfl (Int.compare_eq_gt.2 hlt)
  · intro hle
    refine ⟨fun l h hlow hhigh ↦ ?_, nofun⟩
    cases hlow
    cases hhigh
    exact fun hgt ↦ Int.not_lt.2 hle (Int.compare_eq_gt.1 hgt)

theorem scalarViolation?_between (numeric : kind = .number ∨ kind = .integer) :
    scalarViolation? ⟨kind, .between (.integer low lowInRange) (.integer high highInRange)⟩
        (.number (.integer n inRange)) =
      if n < low then some (.constraint
        (BoundFailure.belowMinimum (.integer n inRange) (.integer low lowInRange)).message)
      else if high < n then some (.constraint
        (BoundFailure.aboveMaximum (.integer n inRange) (.integer high highInRange)).message)
      else none := by
  have hkind : isOfKind kind (.number (.integer n inRange)) = true := by
    rcases numeric with rfl | rfl <;> rfl
  have hlow : (Number.integer n inRange).order (.integer low lowInRange) = .lt ↔ n < low :=
    Int.compare_eq_lt
  have hhigh : (Number.integer n inRange).order (.integer high highInRange) = .gt ↔ high < n :=
    Int.compare_eq_gt
  rw [scalarViolation?_of_kind hkind]
  by_cases below : n < low <;> by_cases above : high < n <;>
    simp [Constraints.failure?, numberFailure?, Constraints.between, hlow, hhigh, below, above]

end Between

namespace Blueprint

section Clauses

variable {kind : ScalarKind} {clauses : List ConstraintClause} {lower upper : ConstraintClause}
  {low high : Number}

variable [PatternEngine]

theorem gathered_between (numeric : kind = .number ∨ kind = .integer)
    (order : clauses = [lower, upper] ∨ clauses = [upper, lower])
    (isLower : lower.key.value = "min") (isUpper : upper.key.value = "max")
    (isLow : lower.literal.value = .number low) (isHigh : upper.literal.value = .number high) :
    Gathered kind clauses (.between low high) := by
  have hlower : lower.key? = some .minimum := by
    rw [ConstraintClause.key?, isLower]
    rfl
  have hupper : upper.key? = some .maximum := by
    rw [ConstraintClause.key?, isUpper]
    rfl
  have happlies : ConstraintKey.minimum.appliesTo kind = true ∧ ConstraintKey.maximum.appliesTo kind = true := by
    rcases numeric with rfl | rfl <;> exact ⟨rfl, rfl⟩
  have hfits : lower.Fits kind ∧ upper.Fits kind :=
    ⟨⟨_, hlower, happlies.1, by rw [isLow]; rfl⟩, ⟨_, hupper, happlies.2, by rw [isHigh]; rfl⟩⟩
  rcases order with rfl | rfl
  all_goals
    refine ⟨by simp [hfits], by simp [isLower, isUpper], ?_⟩
    simp [statedConstraints, statedLiteral?, hlower, hupper, isLow, isHigh, Literal.number?,
      Constraints.between]

end Clauses

inductive WrittenBetween (text : List Char) (kind : ScalarKind) (low high : Int) : Field → Prop
  | mk {name : Located String} {isOptional : Bool} {clauses : List ConstraintClause}
      {lower upper : ConstraintClause}
      (order : clauses = [lower, upper] ∨ clauses = [upper, lower])
      (isLower : lower.key.value = "min") (isUpper : upper.key.value = "max")
      (isLow : WrittenAt text low lower.literal.location)
      (isHigh : WrittenAt text high upper.literal.location) :
      WrittenBetween text kind low high ⟨name, isOptional, .scalar kind clauses, none⟩

section Compiling

variable {openByDefault : Bool} {origin text : String} {items : List Item} {body : List Field}
  {f : Field} {kind : ScalarKind} {clauses : List ConstraintClause} {low high : Int}
  {lowInRange : InRange low} {highInRange : InRange high} {fault : Located Fault}

variable [PatternEngine]

theorem gathered_of_writtenBetween (numeric : kind = .number ∨ kind = .integer)
    (lowInRange : InRange low) (highInRange : InRange high) (read : itemsOf text = .ok items)
    (isBody : body ∈ allBodies items) (isField : f ∈ body)
    (written : WrittenBetween text.toList kind low high f) :
    f.default = none ∧ ∃ clauses, f.type = .scalar kind clauses ∧
      Gathered kind clauses (.between (.integer low lowInRange) (.integer high highInRange)) := by
  cases written with
  | @mk name isOptional clauses lower upper order isLower isUpper isLow isHigh =>
    have constrains : Constrains items clauses := ⟨body, isBody, _, isField, kind, rfl⟩
    have hlower : lower ∈ clauses := by rcases order with rfl | rfl <;> simp
    have hupper : upper ∈ clauses := by rcases order with rfl | rfl <;> simp
    refine ⟨rfl, clauses, rfl, gathered_between numeric order isLower isUpper ?_ ?_⟩
    · exact literal_of_writtenAt read constrains hlower lowInRange isLow
    · exact literal_of_writtenAt read constrains hupper highInRange isHigh

variable (isBody : body ∈ allBodies items) (isField : f ∈ body)
  (type : f.type = .scalar kind clauses) (default : f.default = none)
  (gathered : Gathered kind clauses (.between (.integer low lowInRange) (.integer high highInRange)))

include type default gathered

theorem fault_between {names : List String} (h : FieldFault names f fault) : high < low ∧
    ∃ place, fault = ⟨.invalidConstraint
      (.invertedBounds (.integer low lowInRange) (.integer high highInRange)), place⟩ := by
  cases h with
  | notScalar given | misfit given =>
    rw [default] at given
    cases given
  | type faulty =>
    cases faulty with
    | unresolved base =>
      rw [type] at base
      cases base
    | constraints base faulty =>
      rw [type] at base
      cases base
      obtain ⟨inverted, place, rfl, hinverted⟩ := faulty.inverted gathered.each gathered.once
      rw [← gathered.stated] at hinverted
      cases hinverted with
      | bounds minimum maximum hgt =>
        cases minimum
        cases maximum
        exact ⟨Int.compare_eq_gt.1 hgt, place, rfl⟩
      | lengths minLength => cases minLength

include isBody isField

theorem exists_compile_between_iff (read : itemsOf text = .ok items)
    (onlyThere : ∀ fault, HasFault items fault → FieldFault (typeNames items) f fault) :
    (∃ s, compile openByDefault ⟨origin, text⟩ = .ok s) ↔ low ≤ high := by
  constructor
  · intro h
    have hbody := ((exists_compile_iff read).1 h).bodies body isBody
    have hfits := (hbody.each f isField).type.constraints kind clauses (by rw [type]; rfl)
    have hordered := hfits.ordered
    rw [← gathered.stated] at hordered
    exact ordered_between_iff.1 hordered
  · intro hle
    cases h : compile openByDefault ⟨origin, text⟩ with
    | ok s => exact ⟨s, rfl⟩
    | error error =>
      obtain ⟨fault, -, hfault⟩ := compile_fault read h
      have hlt := (fault_between type default gathered (onlyThere fault hfault)).1
      exact absurd hle (Int.not_le.2 hlt)

theorem compile_inverted_between (read : itemsOf text = .ok items)
    (onlyThere : ∀ fault, HasFault items fault → FieldFault (typeNames items) f fault)
    (hlt : high < low) : ∃ place, compile openByDefault ⟨origin, text⟩ = .error (.faulty origin
      ⟨.invalidConstraint (.invertedBounds (.integer low lowInRange) (.integer high highInRange)),
        place⟩) := by
  cases h : compile openByDefault ⟨origin, text⟩ with
  | ok s =>
    have hle := (exists_compile_between_iff isBody isField type default gathered read onlyThere).1 ⟨s, h⟩
    exact absurd hlt (Int.not_lt.2 hle)
  | error error =>
    obtain ⟨fault, rfl, hfault⟩ := compile_fault read h
    obtain ⟨-, place, rfl⟩ := fault_between type default gathered (onlyThere fault hfault)
    exact ⟨place, rfl⟩

end Compiling

end Blueprint

section Documents

/-- A document gives a field of some object a value, and nothing is wrong with it elsewhere. -/
structure Root.Gives (r : Root) (v : Value) (p : Path) (id : Nat) (field : String) (w : Value) :
    Prop where
  given : ∃ t members, Visited r.schema (.named r.id) v p t (.object members) ∧
    t.objectId? = some id ∧ members.lookup field = some w
  elsewhere : ∀ g ∈ r.report v, g.path = p ++ [.field field]

/-- What comes of two bounds on a field of an object type. -/
structure Schema.Enforces (s : Schema) (id : Nat) (field : String) (kind : Blueprint.ScalarKind)
    {low high : Int} (lowInRange : InRange low) (highInRange : InRange high) : Prop where
  accepts : ∀ name r v p n (inRange : InRange n), s.root name = .ok r → v.DistinctKeys →
    r.Gives v p id field (.number (.integer n inRange)) →
      ((∃ m, r.validate v = .ok m) ↔ low ≤ n ∧ n ≤ high)
  rejectsBelow : ∀ name r v p n (inRange : InRange n), s.root name = .ok r → v.DistinctKeys →
    r.Gives v p id field (.number (.integer n inRange)) → n < low →
      r.RejectsFor v ⟨p ++ [.field field], .constraint
        (BoundFailure.belowMinimum (.integer n inRange) (.integer low lowInRange)).message⟩
  rejectsAbove : ∀ name r v p n (inRange : InRange n), s.root name = .ok r → v.DistinctKeys →
    r.Gives v p id field (.number (.integer n inRange)) → high < n →
      r.RejectsFor v ⟨p ++ [.field field], .constraint
        (BoundFailure.aboveMaximum (.integer n inRange) (.integer high highInRange)).message⟩
  emits : ∀ name r, s.root name = .ok r → Relation.ReflTransGen s.LeadsTo r.id id →
    ∃ document keywords properties, s.jsonSchema name = .ok document ∧
      Subschema document (.object keywords) ∧
      keywords.lookup "properties" = some (.object properties) ∧
      properties.lookup field = some (.object [("type", .string kind.keyword),
        ("minimum", .number (.integer low lowInRange)),
        ("maximum", .number (.integer high highInRange))])

variable {s : Schema} {id : Nat} {d : FieldDefinition} {kind : Blueprint.ScalarKind} {low high n : Int}
  {lowInRange : InRange low} {highInRange : InRange high} {inRange : InRange n} {r : Root} {v : Value}
  {p : Path}

variable [PatternEngine]

theorem Root.Gives.findings {w : Value} {scalar : Scalar} (hs : r.schema.WellFormed)
    (distinct : v.DistinctKeys) (declared : d ∈ (r.schema.definition id).fields)
    (type : d.type = .scalar scalar) (gives : r.Gives v p id d.name w) :
    r.findings v = (scalarViolation? scalar w).toList.map (⟨p ++ [.field d.name], ·⟩) := by
  obtain ⟨⟨t, members, visited, isObject, present⟩, elsewhere⟩ := gives
  rw [Root.report_eq_findings] at elsewhere
  have hvisited : Visited r.schema (.named r.id) v (p ++ [.field d.name]) (.scalar scalar) w :=
    visited.trans (.member isObject declared present (type ▸ .here))
  exact findings_of_onlyThere hs.fields_nodup distinct hvisited elsewhere

theorem enforces_between (hs : s.WellFormed) (numeric : kind = .number ∨ kind = .integer)
    (declared : d ∈ (s.definition id).fields) (default : d.default = none)
    (type : d.type =
      .scalar ⟨kind, .between (.integer low lowInRange) (.integer high highInRange)⟩) :
    s.Enforces id d.name kind lowInRange highInRange := by
  have hfindings (name : String) (r : Root) (v : Value) (p : Path) (n : Int) (inRange : InRange n)
      (root : s.root name = .ok r) (distinct : v.DistinctKeys)
      (gives : r.Gives v p id d.name (.number (.integer n inRange))) :
      r.findings v = (scalarViolation? ⟨kind, .between (.integer low lowInRange)
        (.integer high highInRange)⟩ (.number (.integer n inRange))).toList.map
          (⟨p ++ [.field d.name], ·⟩) := by
    obtain ⟨rfl, -, -⟩ := Schema.root_eq_ok root
    exact gives.findings hs distinct declared type
  have hle : low ≤ high := by
    have hwithin := ((hs.definition id).fields d declared).type
    rw [type] at hwithin
    have hscalar : Scalar.WellFormed _ := hwithin
    exact ordered_between_iff.1 hscalar.ordered
  constructor
  case accepts =>
    intro name r v p n inRange root distinct gives
    have hok : (∃ m, r.validate v = .ok m) ↔ r.findings v = [] := by
      simp only [Root.validate_eq_ok_iff, exists_and_left, exists_eq', and_true]
    rw [hok, hfindings name r v p n inRange root distinct gives, scalarViolation?_between numeric]
    split
    case isTrue below => exact iff_of_false (List.cons_ne_nil _ _) (by omega)
    case isFalse =>
      split
      case isTrue above => exact iff_of_false (List.cons_ne_nil _ _) (by omega)
      case isFalse => exact iff_of_true rfl (by omega)
  case rejectsBelow =>
    intro name r v p n inRange root distinct gives below
    rw [Root.rejectsFor_iff, hfindings name r v p n inRange root distinct gives,
      scalarViolation?_between numeric, if_pos below]
    rfl
  case rejectsAbove =>
    intro name r v p n inRange root distinct gives above
    rw [Root.rejectsFor_iff, hfindings name r v p n inRange root distinct gives,
      scalarViolation?_between numeric, if_neg (by omega), if_pos above]
    rfl
  case emits =>
    intro name r root leads
    obtain ⟨-, hid, hmem⟩ := Schema.root_eq_ok root
    have hroot : r.id < s.typeNames.length := (List.getElem?_eq_some_iff.1 (hs.roots _ _ hmem)).1
    refine ⟨_, s.objectKeywords id, (s.definition id).fields.map s.property, jsonSchema_eq_ok hid,
      (subschema_of_leadsTo hs hroot leads).1, ?_, ?_⟩
    · simp [objectKeywords_eq hs, lookup_objectSchema]
    · rw [lookup_property hs declared, Schema.property, type, default]
      rfl

end Documents

namespace Blueprint

/-- Two bounds that are written as whole numbers hold exactly as they are written. A blueprint without
other faults compiles if the lower one does not exceed the upper one, and is refused for their order
otherwise; what it compiles to accepts the whole numbers between them, says which of them another number
misses, and has both of them in its JSON Schemas. -/
theorem integer_bounds_exact [PatternEngine] {openByDefault : Bool} {source : Source} {items : List Item}
    {body : List Field} {f : Field} {kind : ScalarKind} {low high : Int}
    (numeric : kind = .number ∨ kind = .integer) (lowInRange : InRange low)
    (highInRange : InRange high) (read : itemsOf source.text = .ok items)
    (isBody : body ∈ allBodies items) (isField : f ∈ body)
    (written : WrittenBetween source.text.toList kind low high f)
    (onlyThere : ∀ fault, HasFault items fault → FieldFault (typeNames items) f fault) :
    ((∃ s, compile openByDefault source = .ok s) ↔ low ≤ high) ∧
      (high < low → ∃ place, compile openByDefault source = .error (.faulty source.origin
        ⟨.invalidConstraint (.invertedBounds (.integer low lowInRange) (.integer high highInRange)),
          place⟩)) ∧
      ∀ s, compile openByDefault source = .ok s →
        (∃ id < s.types.length, RendersFields s openByDefault body (s.definition id).fields) ∧
        ∀ id, RendersFields s openByDefault body (s.definition id).fields →
          s.Enforces id f.name.value kind lowInRange highInRange := by
  obtain ⟨default, clauses, type, gathered⟩ :=
    gathered_of_writtenBetween numeric lowInRange highInRange read isBody isField written
  refine ⟨exists_compile_between_iff isBody isField type default gathered read onlyThere,
    compile_inverted_between isBody isField type default gathered read onlyThere, ?_⟩
  intro s compiled
  have hs := compile_wellFormed compiled
  obtain ⟨items', read', resolved⟩ := compile_eq_ok compiled
  obtain rfl := Except.ok.inj (read.symm.trans read')
  refine ⟨(resolve_renders resolved).exists_place isBody, fun id rendered ↦ ?_⟩
  obtain ⟨d, declared, hname, hrenders, hdefault⟩ := rendered.exists_definition isField
  have hdefault : d.default = none := by rw [hdefault, default]; rfl
  have htype : d.type =
      .scalar ⟨kind, .between (.integer low lowInRange) (.integer high highInRange)⟩ := by
    rw [type] at hrenders
    generalize d.type = t at hrenders
    cases hrenders with
    | scalar => rw [gathered.stated, statedScalar]
  rw [← hname]
  exact enforces_between hs numeric declared hdefault htype

def sizedSource (max min : String) : Source :=
  ⟨"box", "root Box \x7b size: integer(max = " ++ max ++ ", min = " ++ min ++ ") \x7d"⟩

def sizeField (low high : Number) : Field :=
  ⟨⟨"size", ⟨1, 12⟩⟩, false, .scalar .integer [⟨⟨"max", ⟨1, 26⟩⟩, ⟨.number high, ⟨1, 32⟩⟩⟩,
    ⟨⟨"min", ⟨1, 53⟩⟩, ⟨.number low, ⟨1, 59⟩⟩⟩], none⟩

def sizedBox (low high : Number) : List Item :=
  [.type ⟨⟨"Box", ⟨1, 6⟩⟩, true, none, [sizeField low high]⟩]

def sizedSchema (low high : Number) : Schema where
  origin := "box"
  types := [⟨"Box", [⟨"size", .scalar ⟨.integer, .between low high⟩, true, none⟩], true, false⟩]
  roots := [("Box", 0)]

theorem fieldFault_of_sizedBox [PatternEngine] {low high : Number} {fault : Located Fault}
    (h : HasFault (sizedBox low high) fault) :
    FieldFault (typeNames (sizedBox low high)) (sizeField low high) fault := by
  have halone {α : Type} {a b : α} {before after : List α} (split : [a] = before ++ b :: after) :
      before = [] := by
    cases before with
    | nil => rfl
    | cons => simp at split
  cases h with
  | reserved mem reserved =>
    obtain rfl := List.mem_singleton.1 mem
    simp at reserved
  | duplicateType split given | duplicateRoot split given =>
    rw [halone split] at given
    cases given
  | unresolvedRoot mem undeclared =>
    obtain rfl := List.mem_singleton.1 mem
    simp [typeNames, declarations, sizedBox, Item.declaration?] at undeclared
  | body mem faulty =>
    obtain rfl := List.mem_singleton.1 mem
    cases faulty with
    | duplicate split given =>
      rw [halone split] at given
      cases given
    | field mem faulty =>
      obtain rfl := List.mem_singleton.1 mem
      exact faulty

/-- Two whole numbers that are next to each other, and the same as binary64 numbers. -/
theorem integer_bounds_exact_neighbours :
    let low : Number := .integer 9223372036854775807 (by decide)
    let high : Number := .integer 9223372036854775808 (by decide)
    let box : Root := ⟨sizedSchema low high, "Box", 0⟩
    (compile false (sizedSource "9223372036854775808" "9223372036854775807") =
        .ok (sizedSchema low high) ∧
      (sizedSchema low high).root "Box" = .ok box) ∧
    (∃ m, box.validate (.object [("size", .number high)]) = .ok m) ∧
    box.RejectsFor (.object [("size", .number (.integer 9223372036854775809 (by decide)))])
      ⟨[.field "size"], .constraint
        "9223372036854775809 is greater than the maximum 9223372036854775808"⟩ ∧
    ∃ place, compile false (sizedSource "9223372036854775807" "9223372036854775808") =
      .error (.faulty "box" ⟨.invalidConstraint (.invertedBounds high low), place⟩) := by
  intro low high box
  have hlow : InRange 9223372036854775807 := by decide
  have hhigh : InRange 9223372036854775808 := by decide
  have hcompile : compile false (sizedSource "9223372036854775808" "9223372036854775807") =
      .ok (sizedSchema low high) := by rfl
  have hroot : (sizedSchema low high).root "Box" = .ok box := rfl
  have hread : itemsOf (sizedSource "9223372036854775808" "9223372036854775807").text =
      .ok (sizedBox low high) := by rfl
  have hread' : itemsOf (sizedSource "9223372036854775807" "9223372036854775808").text =
      .ok (sizedBox high low) := by rfl
  have hwritten : WrittenBetween (sizedSource "9223372036854775808" "9223372036854775807").text.toList
      .integer 9223372036854775807 9223372036854775808 (sizeField low high) :=
    .mk (.inr rfl) rfl rfl
      ⟨"root Box \x7b size: integer(max = 9223372036854775808, min = ".toList, ") \x7d".toList,
        ⟨rfl, rfl⟩, .cons rfl⟩
      ⟨"root Box \x7b size: integer(max = ".toList, ", min = 9223372036854775807) \x7d".toList,
        ⟨rfl, rfl⟩, .cons rfl⟩
  have hwritten' : WrittenBetween (sizedSource "9223372036854775807" "9223372036854775808").text.toList
      .integer 9223372036854775808 9223372036854775807 (sizeField high low) :=
    .mk (.inr rfl) rfl rfl
      ⟨"root Box \x7b size: integer(max = 9223372036854775807, min = ".toList, ") \x7d".toList,
        ⟨rfl, rfl⟩, .cons rfl⟩
      ⟨"root Box \x7b size: integer(max = ".toList, ", min = 9223372036854775808) \x7d".toList,
        ⟨rfl, rfl⟩, .cons rfl⟩
  have hbody (l h : Number) : [sizeField l h] ∈ allBodies (sizedBox l h) := List.mem_singleton_self _
  have hfield (l h : Number) : sizeField l h ∈ [sizeField l h] := List.mem_singleton_self _
  obtain ⟨-, -, hschema⟩ := @integer_bounds_exact _ false _ _ _ _ _ _ _ (.inr rfl) hlow hhigh hread
    (hbody low high) (hfield low high) hwritten fun _ ↦ fieldFault_of_sizedBox
  obtain ⟨-, hrefused, -⟩ := @integer_bounds_exact _ false _ _ _ _ _ _ _ (.inr rfl) hhigh hlow hread'
    (hbody high low) (hfield high low) hwritten' fun _ ↦ fieldFault_of_sizedBox
  have hrenders : RendersFields (sizedSchema low high) false [sizeField low high]
      ((sizedSchema low high).definition 0).fields := .cons rfl .scalar rfl rfl .nil
  have henforces := (hschema _ hcompile).2 0 hrenders
  refine ⟨⟨hcompile, hroot⟩, ?accepted, ?rejected, hrefused (by decide)⟩
  case accepted =>
    have hgives : box.Gives (.object [("size", .number high)]) [] 0 "size" (.number high) :=
      ⟨⟨_, _, .here, rfl, rfl⟩, nofun⟩
    exact (henforces.accepts _ _ _ _ _ hhigh hroot (by simp) hgives).2 (by decide)
  case rejected =>
    have habove : InRange 9223372036854775809 := by decide
    have hgives : box.Gives (.object [("size", .number (.integer 9223372036854775809 habove))]) [] 0
        "size" (.number (.integer 9223372036854775809 habove)) :=
      ⟨⟨_, _, .here, rfl, rfl⟩, List.forall_mem_singleton.2 rfl⟩
    exact henforces.rejectsAbove _ _ _ _ _ habove hroot (by simp) hgives (by decide)

end Blueprint

end DocumentSchema
