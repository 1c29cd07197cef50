import DocumentSchema.Json.Decimal

namespace DocumentSchema.Json

inductive Number where
  | integer (value : Int) (inRange : -0x8000000000000000 ≤ value ∧ value < 0x10000000000000000)
  | real (value : Double)
  deriving DecidableEq

namespace Number

def ofNat? (n : Nat) : Option Number :=
  if h : n < 0x10000000000000000 then some (.integer n (by omega)) else none

def ofNat (n : Nat) : Number := (ofNat? n).getD (.real (.ofInt n))

def toDouble : Number → Double
  | .integer n _ => .ofInt n
  | .real d => d

def isIntegral : Number → Bool
  | .integer _ _ => true
  | .real d => d.isIntegral

def toInt? : Number → Option Int
  | .integer n _ => some n
  | .real _ => none

/-- The value of an exactly kept whole number within 64 signed bits. -/
def toSigned? (n : Number) : Option Int := n.toInt?.filter (· < 0x8000000000000000)

def toNat? (n : Number) : Option Nat := (n.toInt?.filter (0 ≤ ·)).map Int.toNat

/-- Exactly kept whole numbers compare exactly; as soon as a binary64 number takes part, both sides
are rounded to one. -/
def order : Number → Number → Ordering
  | .integer a _, .integer b _ => compare a b
  | a, b => compare a.toDouble.key b.toDouble.key

def text : Number → List Char
  | .integer n _ => if n < 0 then '-' :: Nat.toDigits 10 n.natAbs else Nat.toDigits 10 n.natAbs
  | .real d => d.text

instance : ToString Number := ⟨fun n ↦ String.ofList n.text⟩

end Number

end DocumentSchema.Json
