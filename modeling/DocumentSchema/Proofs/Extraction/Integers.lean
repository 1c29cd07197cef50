import DocumentSchema.Extraction
import DocumentSchema.Json.View
import DocumentSchema.Pattern.Engine
import DocumentSchema.Proofs.Except
import DocumentSchema.Proofs.Json.WholeNumber
import DocumentSchema.Proofs.Validation.Idempotence
import DocumentSchema.Proofs.Validation.Replacement

namespace DocumentSchema

open Json (Number Value decimal InRange)

namespace Json.Number

variable {number : Number} {i j : Int}

/-- The whole number that a number is, however it is kept. -/
inductive HasValue : Number → Int → Prop
  | integer {n : Int} {h : InRange n} : HasValue (.integer n h) n
  | real {d : Double} {m : Nat} (units : d.units = m <<< 1074) :
      HasValue (.real d) (if d.negative then -m else m)

def IsExact (number : Number) : Prop := number.toInt?.isSome = true

/-- The whole numbers of 64 signed bits. -/
abbrev IsSigned (i : Int) : Prop := -0x8000000000000000 ≤ i ∧ i < 0x8000000000000000

theorem HasValue.unique (h : number.HasValue i) (h' : number.HasValue j) : i = j := by
  cases h with
  | integer =>
    cases h'
    rfl
  | @real d m units =>
    cases h' with
    | @real _ m' units' =>
      have hsame : m <<< 1074 = m' <<< 1074 := units.symm.trans units'
      rw [Nat.shiftLeft_eq, Nat.shiftLeft_eq] at hsame
      obtain rfl : m = m' := Nat.eq_of_mul_eq_mul_right (Nat.two_pow_pos 1074) hsame
      rfl

theorem exists_hasValue (h : number.isIntegral = true) : ∃ i, number.HasValue i := by
  have hshift (k units : Nat) (hmod : units % (1 <<< k) = 0) : ∃ m, units = m <<< k := by
    rw [Nat.one_shiftLeft] at hmod
    refine ⟨units / 2 ^ k, ?_⟩
    rw [Nat.shiftLeft_eq, Nat.div_mul_cancel (Nat.dvd_of_mod_eq_zero hmod)]
  cases number with
  | integer n hn => exact ⟨n, .integer⟩
  | real d =>
    rw [isIntegral, Double.isIntegral, decide_eq_true_eq] at h
    obtain ⟨m, hm⟩ := hshift 1074 d.units h
    exact ⟨_, .real hm⟩

theorem toSigned?_eq_some_iff :
    number.toSigned? = some i ↔ number.IsExact ∧ number.HasValue i ∧ IsSigned i := by
  unfold toSigned? IsExact IsSigned
  cases number with
  | integer n hn =>
    simp only [toInt?, Option.filter_eq_some_iff, decide_eq_true_eq, Option.some_inj]
    constructor
    · rintro ⟨rfl, hlt⟩
      exact ⟨rfl, .integer, hn.1, hlt⟩
    · rintro ⟨-, ⟨⟩, -, hlt⟩
      exact ⟨rfl, hlt⟩
  | real d => simp [toInt?]

theorem isExact_iff_decimal {text : List Char} (read : ofText? text = some number) :
    number.IsExact ↔ ∃ i, InRange i ∧ text = decimal i := by
  constructor
  · intro exact
    cases number with
    | integer n h => exact ⟨n, h, (ofText?_eq_integer_iff h).1 read⟩
    | real d => cases exact
  · rintro ⟨i, h, rfl⟩
    obtain rfl := Option.some.inj (read.symm.trans (ofText?_decimal h))
    rfl

end Json.Number

namespace Validation

variable {s : Schema} {type t : FieldType} {v u w : Value} {p q : Path} {scalar : Scalar}

/-- Where a scalar of a normal form is from: from the same place in the document, or from the default of
a field that is absent in its place. -/
inductive StemsFrom (s : Schema) (type : FieldType) (v : Value) : Path → Scalar → Value → Prop
  | document {p : Path} {scalar : Scalar} {w : Value}
      (visited : Visited s type v p (.scalar scalar) w) : StemsFrom s type v p scalar w
  | default {p : Path} {t : FieldType} {id : Nat} {members : List (String × Value)}
      {f : FieldDefinition} {scalar : Scalar} {w : Value}
      (visited : Visited s type v p t (.object members)) (isObject : t.objectId? = some id)
      (declared : f ∈ (s.definition id).fields) (isScalar : f.type = .scalar scalar)
      (absent : members.lookup f.name = none) (default : f.default = some w) :
      StemsFrom s type v (p ++ [.field f.name]) scalar w

theorem StemsFrom.under (outer : Visited s type v p t u) (h : StemsFrom s t u q scalar w) :
    StemsFrom s type v (p ++ q) scalar w := by
  cases h with
  | document visited => exact .document (outer.trans visited)
  | default visited isObject declared isScalar absent default =>
    rw [← List.append_assoc]
    exact .default (outer.trans visited) isObject declared isScalar absent default

theorem Visited.eq_of_scalar (h : Visited s (.scalar scalar) v p t w) :
    p = [] ∧ t = .scalar scalar ∧ w = v := by
  cases h with
  | here => exact ⟨rfl, rfl, rfl⟩
  | member isObject => cases isObject

theorem Visited.partAt (h : Visited s type v p t w) : PartAt w p v := by
  induction h with
  | here => exact .here
  | member _ _ present _ ih => exact .member present ih
  | item present _ ih => exact .item present ih

theorem Visited.conforms (visited : Visited s type v p t w) (h : Conforms s type v) :
    Conforms s t w := by
  induction visited with
  | here => exact h
  | member isObject declared present _ ih =>
    exact ih (((conforms_object_iff isObject).1 h).2.1 _ declared _ present)
  | item present _ ih => exact ih (conforms_array_iff.1 h _ (List.mem_of_getElem? present))

variable [PatternEngine]

theorem stemsFrom_of_object {members : List (String × Value)} {id : Nat} (hs : s.WellFormed)
    (isObject : type.objectId? = some id)
    (ih : ∀ m ∈ members, ∀ t {p}, Conforms s t m.2 →
      Visited s t (normalForm s m.2 t) p (.scalar scalar) w → StemsFrom s t m.2 p scalar w)
    (h : Conforms s type (.object members))
    (visited : Visited s type (normalForm s (.object members) type) p (.scalar scalar) w) :
    StemsFrom s type (.object members) p scalar w := by
  obtain ⟨-, conforms, -⟩ := (conforms_object_iff isObject).1 h
  rw [normalForm_of_object isObject] at visited
  cases visited with
  | here => cases isObject
  | @member _ _ id' _ f u _ p isObject' declared present rest =>
    obtain rfl : id' = id := Option.some.inj (isObject'.symm.trans isObject)
    obtain ⟨kept, rfl⟩ := (lookup_normalMembers_iff hs declared).1 present
    cases hlookup : members.lookup f.name with
    | some v =>
      rw [normalMember, hlookup] at rest
      have hrest := ih _ (Json.mem_of_lookup hlookup) f.type (conforms f declared v hlookup) rest
      exact hrest.under (.member isObject declared hlookup .here)
    | none =>
      obtain ⟨default, hdefault⟩ : ∃ default, f.default = some default := by
        simpa [hlookup, Option.isSome_iff_exists] using (mem_keptFields_iff.1 kept).2
      obtain ⟨-, scalar', isScalar, -⟩ := ((hs.definition id').fields f declared).default _ hdefault
      rw [normalMember, hlookup, hdefault, isScalar] at rest
      obtain ⟨rfl, hscalar, rfl⟩ := rest.eq_of_scalar
      obtain rfl := FieldType.scalar.inj hscalar
      exact .default .here isObject declared isScalar hlookup hdefault

theorem stemsFrom_of_visited (hs : s.WellFormed) (h : Conforms s type v)
    (visited : Visited s type (normalForm s v type) p (.scalar scalar) w) :
    StemsFrom s type v p scalar w := by
  induction v, type using typedInduction generalizing p with
  | scalar v scalar' =>
    rw [normalForm_scalar] at visited
    exact .document visited
  | wrongKind v type wrong => exact absurd h (not_conforms_of_kind wrong)
  | array items item ih =>
    rw [conforms_array_iff] at h
    rw [normalForm_array] at visited
    cases visited with
    | item present rest =>
      rw [List.getElem?_map] at present
      obtain ⟨v, hv, rfl⟩ := Option.map_eq_some_iff.1 present
      have hmem : v ∈ items := List.mem_of_getElem? hv
      exact (ih v hmem item (h v hmem) rest).under (.item hv .here)
  | object members type id isObject ih => exact stemsFrom_of_object hs isObject ih h visited

end Validation

namespace Extraction

variable {v w : Value} {members : List (String × Value)}

theorem memberReadings_eq_map (members : List (String × Value)) :
    memberReadings members = members.map fun m ↦ (m.1, extract m.2) := by
  induction members with
  | nil => rfl
  | cons m rest ih =>
    obtain ⟨key, v⟩ := m
    rw [memberReadings, ih, List.map_cons]

theorem extract_signed_eq_ok_iff :
    extract v (.signed 64) = .ok w ↔ (∃ i, v.toSigned? = some i) ∧ w = v := by
  cases v with
  | number n =>
    cases n with
    | integer n h =>
      have hsigned : (∃ i, (Value.number (.integer n h)).toSigned? = some i) ↔
          n < 0x8000000000000000 := by
        simp [Value.toSigned?, Value.number?, Number.toSigned?, Number.toInt?, Option.filter]
      have hadmits : Target.admits? (.signed 64) n = some (decide (n < 0x8000000000000000)) := by
        have hlow : -0x8000000000000000 ≤ n := h.1
        simp [Target.admits?, hlow]
      rw [hsigned]
      simp only [extract, readNumber, Target.required, hadmits]
      by_cases hlt : n < 0x8000000000000000
      · simp [hlt, eq_comm]
      · simp [hlt, mismatch]
    | real d =>
      simp [extract, readNumber, Target.required, mismatch, Value.toSigned?, Value.number?,
        Number.toSigned?, Number.toInt?]
  | null | bool b | string s | array items | object members =>
    simp [extract, Target.required, Target.isOptional, mismatch, Value.toSigned?, Value.number?]

theorem readMap_eq_ok_iff {target : Target} {readings : List (String × Reading)} :
    readMap target readings = .ok w ↔ ∃ read : List (String × Value),
      List.Forall₂ (fun reading m ↦ reading.2 target = .ok m.2 ∧ reading.1 = m.1) readings read ∧
        w = .object (read.mergeSort fun a b ↦ a.1 ≤ b.1) := by
  have hmember (reading : String × Reading) (m : String × Value) :
      (do return (reading.1, ← within (.field reading.1) (reading.2 target)) : Extracted _) = .ok m ↔
        reading.2 target = .ok m.2 ∧ reading.1 = m.1 := by
    obtain ⟨key, v⟩ := m
    simp only [Except.bind_eq_ok_iff, within, Except.mapError_eq_ok_iff]
    constructor
    · rintro ⟨u, hu, h⟩
      cases h
      exact ⟨hu, rfl⟩
    · rintro ⟨hv, rfl⟩
      exact ⟨v, hv, rfl⟩
  unfold readMap
  rw [Except.bind_eq_ok_iff]
  simp only [Except.mapM_eq_ok_iff, hmember]
  constructor
  · rintro ⟨read, hread, h⟩
    exact ⟨read, hread, (Except.ok.inj h).symm⟩
  · rintro ⟨read, hread, rfl⟩
    exact ⟨read, hread, rfl⟩

theorem extract_signedMap_eq_ok_iff :
    extract (.object members) (.map (.signed 64)) = .ok w ↔
      (∀ m ∈ members, ∃ i, m.2.toSigned? = some i) ∧
        w = .object (members.mergeSort fun a b ↦ a.1 ≤ b.1) := by
  have hmember (m m' : String × Value) : extract m.2 (.signed 64) = .ok m'.2 ∧ m.1 = m'.1 ↔
      (∃ i, m.2.toSigned? = some i) ∧ m = m' := by
    rw [extract_signed_eq_ok_iff, Prod.ext_iff, eq_comm (a := m'.2), and_assoc, and_comm (a := _ = _)]
  have hextract : extract (.object members) (.map (.signed 64)) =
      readMap (.signed 64) (members.map fun m ↦ (m.1, extract m.2)) := by
    rw [← memberReadings_eq_map]
    rfl
  rw [hextract, readMap_eq_ok_iff]
  simp only [List.forall₂_map_left_iff, hmember, List.forall₂_and_left, List.forall₂_eq_eq_eq]
  constructor
  · rintro ⟨_, ⟨hsigned, rfl⟩, rfl⟩
    exact ⟨hsigned, rfl⟩
  · rintro ⟨hsigned, rfl⟩
    exact ⟨members, ⟨hsigned, rfl⟩, rfl⟩

end Extraction

namespace Root

open Blueprint Extraction Json.Number Validation

variable {openByDefault : Bool} {source : Source} {s : Schema} {name : String} {r : Root} {v n : Value}

theorem exists_number_of_admits {scalar : Scalar} (integer : scalar.kind = .integer)
    (h : scalar.Admits v) : ∃ number, v = .number number ∧ number.isIntegral = true := by
  obtain ⟨hkind, -⟩ := h
  rw [integer] at hkind
  cases v with
  | number number => exact ⟨number, rfl, hkind⟩
  | null | bool | string | array | object => cases hkind

theorem exists_members_of_stable [PatternEngine] {id : Nat} (hs : s.WellFormed)
    (h : Stable s (.named id) n) : ∃ members, n = .object members ∧ (members.map (·.1)).Nodup ∧
      ∀ m ∈ members, ∃ f ∈ (s.definition id).fields,
        Visited s (.named id) n [.field m.1] f.type m.2 := by
  obtain ⟨conforms, fixed⟩ := h
  cases conforms with
  | @object _ id' members isObject =>
    obtain rfl : id = id' := Option.some.inj isObject
    rw [normalForm_of_object isObject] at fixed
    have hmembers := Value.object.inj fixed
    refine ⟨members, rfl, ?_, fun m hm ↦ ?_⟩
    · rw [← hmembers, List.map_map]
      exact keptFields_nodup hs.fields_nodup id
    · rw [← hmembers] at hm
      obtain ⟨f, kept, rfl⟩ := List.mem_map.1 hm
      have declared := (mem_keptFields_iff.1 kept).1
      have present := lookup_of_kept hs.fields_nodup kept
      rw [hmembers] at present
      exact ⟨f, declared, .member rfl declared present .here⟩

theorem extract_of_signed {members : List (String × Value)} (distinct : (members.map (·.1)).Nodup)
    (signed : ∀ m ∈ members, ∃ i, m.2.toSigned? = some i) :
    ∃ entries, extract (.object members) (.map (.signed 64)) = .ok (.object entries) ∧
      entries.Perm members ∧ entries.Pairwise (·.1 < ·.1) := by
  have hperm : (members.mergeSort fun a b ↦ a.1 ≤ b.1).Perm members := List.mergeSort_perm _ _
  refine ⟨_, extract_signedMap_eq_ok_iff.2 ⟨signed, rfl⟩, hperm, ?_⟩
  have hsorted : (members.mergeSort fun a b ↦ a.1 ≤ b.1).Pairwise (·.1 ≤ ·.1) := by
    have htrans (a b c : String × Value) (hab : decide (a.1 ≤ b.1) = true)
        (hbc : decide (b.1 ≤ c.1) = true) : decide (a.1 ≤ c.1) = true :=
      decide_eq_true (String.le_trans (of_decide_eq_true hab) (of_decide_eq_true hbc))
    have htotal (a b : String × Value) : (decide (a.1 ≤ b.1) || decide (b.1 ≤ a.1)) = true := by
      simpa using String.le_total a.1 b.1
    exact (List.pairwise_mergeSort htrans htotal members).imp of_decide_eq_true
  have hdistinct : (members.mergeSort fun a b ↦ a.1 ≤ b.1).Pairwise (·.1 ≠ ·.1) :=
    List.pairwise_map.1 ((hperm.map Prod.fst).nodup_iff.2 distinct)
  exact (hsorted.and hdistinct).imp fun ⟨hle, hne⟩ ↦ Std.lt_of_le_of_ne hle hne

/-- Every integer of an accepted document is the whole number that is written in its place or that its
default is. It is read as this number exactly if it is kept as one, that is, written without point and
exponent, and fits. A document of integers is read as a map of them exactly if each of them is. -/
theorem certified_integers_read [PatternEngine] (compiled : compile openByDefault source = .ok s)
    (root : s.root name = .ok r) (accepted : r.validate v = .ok n) :
    (∀ p scalar w, Visited s (.named r.id) n p (.scalar scalar) w → scalar.kind = .integer →
      PartAt w p n ∧ StemsFrom s (.named r.id) v p scalar w ∧
      ∃ number, w = .number number ∧ (∃! i, number.HasValue i) ∧
        (∀ i, w.toSigned? = some i ↔ number.IsExact ∧ number.HasValue i ∧ IsSigned i) ∧
        ∀ text, Number.ofText? text = some number →
          (number.IsExact ↔ ∃ i, InRange i ∧ text = decimal i)) ∧
    ((∀ f ∈ (s.definition r.id).fields, ∃ scalar, f.type = .scalar scalar ∧ scalar.kind = .integer) →
      ∃ members, n = .object members ∧
        (∀ m ∈ members, ∃ scalar, scalar.kind = .integer ∧
          Visited s (.named r.id) n [.field m.1] (.scalar scalar) m.2) ∧
        ((∀ m ∈ members, ∃ i, m.2.toSigned? = some i) →
          ∃ entries, extract n (.map (.signed 64)) = .ok (.object entries) ∧
            entries.Perm members ∧ entries.Pairwise (·.1 < ·.1)) ∧
        ((∃ m ∈ members, m.2.toSigned? = none) →
          ∀ w, extract n (.map (.signed 64)) ≠ .ok w)) := by
  obtain ⟨rfl, -, -⟩ := Schema.root_eq_ok root
  have hs := Blueprint.compile_wellFormed compiled
  obtain ⟨hfindings, rfl⟩ := validate_eq_ok_iff.1 accepted
  have hconforms : Conforms r.schema (.named r.id) v := (findings_eq_nil_iff v _).1 hfindings
  have hstable : Stable r.schema (.named r.id) (r.normalForm v) := normalForm_stable hs hconforms
  constructor
  case left =>
    intro p scalar w visited integer
    obtain ⟨number, rfl, integral⟩ :=
      exists_number_of_admits integer (conforms_scalar_iff.1 (visited.conforms hstable.conforms))
    obtain ⟨i, hi⟩ := exists_hasValue integral
    exact ⟨visited.partAt, stemsFrom_of_visited hs hconforms visited, number, rfl,
      ⟨i, hi, fun _ hj ↦ hj.unique hi⟩, fun _ ↦ toSigned?_eq_some_iff, fun _ ↦ isExact_iff_decimal⟩
  case right =>
    intro integers
    obtain ⟨members, hmembers, distinct, hvisited⟩ := exists_members_of_stable hs hstable
    refine ⟨members, hmembers, fun m hm ↦ ?_, fun signed ↦ ?_, ?_⟩
    · obtain ⟨f, declared, visited⟩ := hvisited m hm
      obtain ⟨scalar, htype, integer⟩ := integers f declared
      exact ⟨scalar, integer, htype ▸ visited⟩
    · rw [hmembers]
      exact extract_of_signed distinct signed
    · rintro ⟨m, hm, unsigned⟩ w hw
      rw [hmembers, extract_signedMap_eq_ok_iff] at hw
      obtain ⟨i, hi⟩ := hw.1 m hm
      cases unsigned.symm.trans hi

/-- A blueprint with two integers, one of which has a default. -/
def pairBlueprint : Source where
  origin := "pair"
  text := "root Pair \x7bn: integer, m: integer = 7\x7d"

def pairSchema : Schema where
  origin := "pair"
  types := [⟨"Pair", [
    ⟨"n", .scalar ⟨.integer, .none⟩, true, none⟩,
    ⟨"m", .scalar ⟨.integer, .none⟩, false, some (.number (.integer 7 (by decide)))⟩], true, false⟩]
  roots := [("Pair", 0)]

theorem compile_pairBlueprint [PatternEngine] : compile false pairBlueprint = .ok pairSchema := by rfl

def pairOf (number : Number) : Value :=
  .object [("n", .number number), ("m", .number (.integer 7 (by decide)))]

theorem certified_integers_read_pair :
    let one : Number := .integer 1 (by decide)
    let r : Root := ⟨pairSchema, "Pair", 0⟩
    (compile false pairBlueprint = .ok pairSchema ∧ pairSchema.root "Pair" = .ok r ∧
      r.validate (.object [("n", .number one)]) = .ok (pairOf one)) ∧
    StemsFrom pairSchema (.named 0) (.object [("n", .number one)]) [.field "m"]
      ⟨.integer, .none⟩ (.number (.integer 7 (by decide))) ∧
    ∃ entries, extract (pairOf one) (.map (.signed 64)) = .ok (.object entries) ∧
      entries.Pairwise (·.1 < ·.1) := by
  intro one r
  have hroot : pairSchema.root "Pair" = .ok r := rfl
  have haccepted : r.validate (.object [("n", .number one)]) = .ok (pairOf one) := by rfl
  obtain ⟨hread, hmap⟩ := certified_integers_read compile_pairBlueprint hroot haccepted
  have hdefault : Visited pairSchema (.named 0) (pairOf one) [.field "m"] (.scalar ⟨.integer, .none⟩)
      (.number (.integer 7 (by decide))) :=
    .member (f := ⟨"m", .scalar ⟨.integer, .none⟩, false, some (.number (.integer 7 (by decide)))⟩)
      rfl (by simp [pairSchema, Schema.definition]) rfl .here
  have hintegers : ∀ f ∈ (pairSchema.definition 0).fields,
      ∃ scalar, f.type = .scalar scalar ∧ scalar.kind = .integer := by
    simp [pairSchema, Schema.definition]
  obtain ⟨members, hmembers, -, hsigned, -⟩ := hmap hintegers
  obtain rfl := Value.object.inj hmembers
  have hall : ∀ m ∈ [("n", Value.number one), ("m", .number (.integer 7 (by decide)))],
      ∃ i, m.2.toSigned? = some i :=
    List.forall_mem_cons.2 ⟨⟨1, rfl⟩, List.forall_mem_singleton.2 ⟨7, rfl⟩⟩
  obtain ⟨entries, hentries, -, hsorted⟩ := hsigned hall
  exact ⟨⟨compile_pairBlueprint, hroot, haccepted⟩, (hread _ _ _ hdefault rfl).2.1, entries,
    hentries, hsorted⟩

def oneDouble : Json.Double := ⟨false, 0x3FF0000000000000, by decide⟩

theorem ofText?_one_point_zero : Number.ofText? "1.0".toList = some (.real oneDouble) := by
  let read : Json.Numeral := ⟨.fraction, false, 10, false, -1, false, some 0⟩
  have hread : Number.ofText? "1.0".toList = read.number? := rfl
  have hdivided : Json.Numeral.divided (.ofInt 10) 1 = oneDouble := by
    rw [Json.Numeral.divided, if_pos (by decide)]
    decide +kernel
  have hdouble : read.double? = some oneDouble := by
    simp only [read, Json.Numeral.double?, Json.Numeral.scaled?]
    simp [hdivided]
    rfl
  rw [hread, Json.Numeral.number?, hdouble]
  rfl

/-- What is written as `1.0` is an integer, and is not read as one. -/
theorem certified_integer_not_read :
    let one : Number := .real oneDouble
    let r : Root := ⟨pairSchema, "Pair", 0⟩
    Number.ofText? "1.0".toList = some one ∧
    (compile false pairBlueprint = .ok pairSchema ∧ pairSchema.root "Pair" = .ok r ∧
      r.validate (.object [("n", .number one)]) = .ok (pairOf one)) ∧
    Visited pairSchema (.named 0) (pairOf one) [.field "n"] (.scalar ⟨.integer, .none⟩)
      (.number one) ∧
    one.HasValue 1 ∧ IsSigned 1 ∧ (Value.number one).toSigned? = none ∧
    ∀ w, extract (pairOf one) (.map (.signed 64)) ≠ .ok w := by
  intro one r
  have hunits : oneDouble.units = 1 <<< 1074 := by decide +kernel
  have hone : one.HasValue 1 := @HasValue.real oneDouble 1 hunits
  have hvisited : Visited pairSchema (.named 0) (pairOf one) [.field "n"]
      (.scalar ⟨.integer, .none⟩) (.number one) :=
    .member (f := ⟨"n", .scalar ⟨.integer, .none⟩, true, none⟩) rfl
      (by simp [pairSchema, Schema.definition]) rfl .here
  have haccepted : r.validate (.object [("n", .number one)]) = .ok (pairOf one) := by rfl
  refine ⟨ofText?_one_point_zero, ⟨compile_pairBlueprint, rfl, haccepted⟩, hvisited, hone,
    by decide, rfl, fun w hw ↦ ?_⟩
  obtain ⟨i, hi⟩ := (extract_signedMap_eq_ok_iff.1 hw).1 _ List.mem_cons_self
  cases hi

end Root

end DocumentSchema
