namespace DocumentSchema.Json

def roundQuotient (num den : Nat) : Nat :=
  let q := num / den
  match compare (2 * (num % den)) den with
  | .lt => q
  | .gt => q + 1
  | .eq => if q % 2 = 0 then q else q + 1

namespace Rank

def binade : Nat := 0x10000000000000

def count : Nat := 0x7FF * binade

def scale (rank : Nat) : Nat := rank / binade - 1

def units (rank : Nat) : Nat := (rank - scale rank * binade) <<< scale rank

/-- The rank of the magnitude nearest to `num / den`; of two equally near ones, the one with an even
significand. Ratios that round to `2 ^ 1024` or more get a rank that is not below `count`. -/
def nearest (num den : Nat) : Nat :=
  let units := num <<< 1074
  let scale := (units / den).log2 - 52
  scale * binade + roundQuotient units (den <<< scale)

end Rank

/-- A finite binary64 number: its sign and the rank of its magnitude. There are two zeros. -/
structure Double where
  negative : Bool
  rank : Nat
  finite : rank < Rank.count
  deriving DecidableEq

namespace Double

def units (d : Double) : Nat := Rank.units d.rank

def zero (negative : Bool) : Double := ⟨negative, 0, by decide⟩

def isZero (d : Double) : Bool := d.rank = 0

def ofRatio? (negative : Bool) (num den : Nat) : Option Double :=
  if h : Rank.nearest num den < Rank.count then some ⟨negative, _, h⟩ else none

def saturating (negative : Bool) (num den : Nat) : Double :=
  ⟨negative, min (Rank.nearest num den) (Rank.count - 1), by simp only [Rank.count, Rank.binade]; omega⟩

def ofInt (n : Int) : Double := saturating (n < 0) n.natAbs 1

/-- The number nearest to a power of ten, of which those up to `10 ^ 308` are in range. -/
def powerOfTen (n : Nat) : Double := saturating false (Nat.pow 10 n) 1

def times? (d factor : Double) : Option Double :=
  ofRatio? d.negative (d.units * factor.units) (1 <<< 2148)

def dividedBy (d divisor : Double) : Double := saturating d.negative d.units divisor.units

def key (d : Double) : Int := if d.negative then -(d.rank : Int) else d.rank

def isIntegral (d : Double) : Bool := d.units % (1 <<< 1074) = 0

end Double

end DocumentSchema.Json
