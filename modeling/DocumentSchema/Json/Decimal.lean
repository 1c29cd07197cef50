import DocumentSchema.Json.Double

namespace DocumentSchema.Json.Double

/-- Do the reals that round to `d` include `digits * 10 ^ exponent`? They reach halfway to the
neighbours on both sides, and include these ends for an even significand. -/
def readsBack (d : Double) (digits : Nat) (exponent : Int) : Bool :=
  let value := (digits * Nat.pow 10 exponent.toNat) <<< 1075
  let grid := Nat.pow 10 (-exponent).toNat
  let low := (Rank.units (d.rank - 1) + d.units) * grid
  let high := (d.units + Rank.units (d.rank + 1)) * grid
  if d.rank % 2 = 0 then low ≤ value && value ≤ high else low < value && value < high

/-- The multiple of `10 ^ exponent` that reads back as `d`, if one of the two next to `d` does; the
nearer one if both do, and of two equally near ones the even one. -/
def onGrid? (d : Double) (exponent : Int) : Option Nat :=
  let num := d.units * Nat.pow 10 (-exponent).toNat
  let den := Nat.pow 10 exponent.toNat <<< 1074
  let below := num / den
  match d.readsBack below exponent, d.readsBack (below + 1) exponent with
  | true, true => some (roundQuotient num den)
  | true, false => some below
  | false, true => some (below + 1)
  | false, false => none

def decimalPoint (d : Double) : Int :=
  (Nat.toDigits 10 ((d.units * Nat.pow 10 340) >>> 1074)).length - 340

def shortest (d : Double) : Nat × Int :=
  let grids := (List.range 17).map fun (n : Nat) ↦ d.decimalPoint - (n + 1)
  (grids.findSome? fun e ↦ (d.onGrid? e).map (·, e)).getD (d.units * Nat.pow 5 1074, -1074)

def isPlain (exponent : Int) : Bool := -5 ≤ exponent && exponent ≤ 15

def layout (digits : List Char) (exponent : Int) : List Char :=
  let zeros (n : Int) := List.replicate n.toNat '0'
  if isPlain exponent then
    if exponent < 0 then
      '0' :: '.' :: zeros (-1 - exponent) ++ digits
    else
      let whole := exponent.toNat + 1
      let fraction := if digits.length ≤ whole then ['0'] else digits.drop whole
      digits.take whole ++ zeros (whole - digits.length) ++ '.' :: fraction
  else
    let fraction := if digits.length ≤ 1 then [] else '.' :: digits.drop 1
    let sign := if exponent < 0 then '-' else '+'
    digits.take 1 ++ fraction ++ 'e' :: sign :: Nat.toDigits 10 exponent.natAbs

def magnitudeText (d : Double) : List Char :=
  if d.isZero then ['0', '.', '0'] else
    let (digits, exponent) := d.shortest
    let written := Nat.toDigits 10 digits
    let trimmed := (written.reverse.dropWhile (· = '0')).reverse
    layout trimmed (exponent + written.length - 1)

def text (d : Double) : List Char :=
  if d.negative then '-' :: d.magnitudeText else d.magnitudeText

end DocumentSchema.Json.Double
