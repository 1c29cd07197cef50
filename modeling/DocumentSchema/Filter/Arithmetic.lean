import DocumentSchema.Filter.Term
import DocumentSchema.Json.Order

namespace DocumentSchema.Filter

open Json (Double Number Value)

def ofInt (n : Int) : Number :=
  if h : -0x8000000000000000 ≤ n ∧ n < 0x8000000000000000 then .integer n (by omega)
  else .real (.ofInt n)

def signedUnits (d : Double) : Int := if d.negative then -(d.units : Int) else d.units

def addDoubles (a b : Double) : Option Double :=
  let units := signedUnits a + signedUnits b
  Double.ofRatio? (units < 0) units.natAbs (1 <<< 1074)

def negateNumber (n : Number) : Number :=
  match n.toSigned? with
  | some i => ofInt (-i)
  | none => let d := n.toDouble; .real ⟨!d.negative, d.rank, d.finite⟩

def multiplyDoubles (a b : Double) : Option Double :=
  Double.ofRatio? (a.negative != b.negative) (a.units * b.units) (1 <<< 2148)

def divideDoubles (a b : Double) : Option Double :=
  if b.isZero then none else Double.ofRatio? (a.negative != b.negative) a.units b.units

/-- A rounded result. One that is too large or no number at all shows as null. -/
def finite : Option Double → Value
  | some d => .number (.real d)
  | none => .null

def onNumbers (exact : Int → Int → Int) (rounded : Double → Double → Option Double)
    (a b : Number) : Value :=
  match a.toSigned?, b.toSigned? with
  | some m, some n =>
    let result := exact m n
    if -0x8000000000000000 ≤ result ∧ result < 0x8000000000000000 then .number (ofInt result)
    else finite (rounded a.toDouble b.toDouble)
  | _, _ => finite (rounded a.toDouble b.toDouble)

/-- The members of two objects, those of the second in place of those of the first. -/
def merge (members others : List (String × Value)) : List (String × Value) :=
  others.foldl (fun merged (key, v) ↦ Json.setMember merged key v) members

def plus : Value → Value → Option Value
  | .null, v | v, .null => some v
  | .number a, .number b => some (onNumbers (· + ·) addDoubles a b)
  | .string s, .string t => some (.string (s ++ t))
  | .array items, .array others => some (.array (items ++ others))
  | .object members, .object others => some (.object (merge members others))
  | _, _ => none

def calculate (op : Operator) (a b : Value) : Option Value :=
  match op, a, b with
  | .add, a, b => plus a b
  | .subtract, .number a, .number b =>
    some (onNumbers (· - ·) (fun a b ↦ addDoubles a ⟨!b.negative, b.rank, b.finite⟩) a b)
  | .subtract, .array items, .array others =>
    some (.array (items.filter fun v ↦ others.all fun w ↦ (v.order w).isNe))
  | .multiply, .number a, .number b => some (onNumbers (· * ·) multiplyDoubles a b)
  | .divide, .number a, .number b => some (finite (divideDoubles a.toDouble b.toDouble))
  | .remainder, .number a, .number b =>
    match a.toSigned?, b.toSigned? with
    | some m, some n => if n = 0 then none else some (.number (ofInt (m.tmod n)))
    | _, _ => none
  | _, _, _ => none

end DocumentSchema.Filter
