import DocumentSchema.Json.Number

namespace DocumentSchema.Json

/-- How far into the grammar of numbers the text has come. -/
inductive Numeral.Phase where
  | sign
  | zero
  | whole
  | point
  | fraction
  | mark
  | markSign
  | exponent
  deriving DecidableEq

/-- A number text read in part. -/
structure Numeral where
  phase : Numeral.Phase
  negative : Bool
  significand : Nat
  full : Bool
  scale : Int
  exponentNegative : Bool
  exponent : Option Nat
  deriving DecidableEq

namespace Numeral

/-- What one more character does to a number text. -/
inductive Step where
  | more (numeral : Numeral)
  | complete
  | invalid
  | outOfRange

def digit (c : Char) : Nat := c.toNat - '0'.toNat

def start (negative : Bool) : Numeral := ⟨.sign, negative, 0, false, 0, false, some 0⟩

def start? (c : Char) : Option Numeral :=
  if c = '-' then some (start true)
  else if c = '0' then some { start false with phase := .zero }
  else if c.isDigit then some { start false with phase := .whole, significand := digit c }
  else none

def wholeDigit (n : Numeral) (d : Nat) : Numeral :=
  let s := 10 * n.significand + d
  if n.full || 0x10000000000000000 ≤ s then { n with full := true, scale := n.scale + 1 }
  else { n with significand := s }

def fractionDigit (n : Numeral) (d : Nat) : Numeral :=
  let s := 10 * n.significand + d
  if n.full || 0x10000000000000000 ≤ s then { n with full := true }
  else { n with significand := s, scale := n.scale - 1 }

def exponentDigit (n : Numeral) (d : Nat) : Step :=
  match n.exponent with
  | none => .more n
  | some e =>
    if 10 * e + d < 0x80000000 then .more { n with exponent := some (10 * e + d) }
    else if n.significand ≠ 0 && !n.exponentNegative then .outOfRange
    else .more { n with exponent := none }

def afterWhole (n : Numeral) (c : Char) : Step :=
  if c = '.' then .more { n with phase := .point, full := false }
  else if c = 'e' || c = 'E' then .more { n with phase := .mark }
  else .complete

def step (n : Numeral) (c : Char) : Step :=
  match n.phase with
  | .sign =>
    if c = '0' then .more { n with phase := .zero }
    else if c.isDigit then .more { n with phase := .whole, significand := digit c }
    else .invalid
  | .zero => if c.isDigit then .invalid else n.afterWhole c
  | .whole => if c.isDigit then .more (n.wholeDigit (digit c)) else n.afterWhole c
  | .point =>
    if c.isDigit then .more ({ n with phase := .fraction }.fractionDigit (digit c)) else .invalid
  | .fraction =>
    if c.isDigit then .more (n.fractionDigit (digit c))
    else if c = 'e' || c = 'E' then .more { n with phase := .mark }
    else .complete
  | .mark =>
    if c = '+' then .more { n with phase := .markSign }
    else if c = '-' then .more { n with phase := .markSign, exponentNegative := true }
    else if c.isDigit then { n with phase := .exponent }.exponentDigit (digit c)
    else .invalid
  | .markSign =>
    if c.isDigit then { n with phase := .exponent }.exponentDigit (digit c) else .invalid
  | .exponent => if c.isDigit then n.exponentDigit (digit c) else .complete

def isComplete (n : Numeral) : Bool :=
  match n.phase with
  | .zero | .whole | .fraction | .exponent => true
  | .sign | .point | .mark | .markSign => false

def divided (d : Double) (power : Nat) : Double :=
  if power ≤ 308 then d.dividedBy (.powerOfTen power)
  else if d.isZero then d
  else divided (d.dividedBy (.powerOfTen 308)) (power - 308)
termination_by power

def scaled? (d : Double) (power : Int) : Option Double :=
  if power < 0 then some (divided d power.natAbs)
  else if power ≤ 308 then d.times? (.powerOfTen power.natAbs)
  else if d.isZero then some d
  else none

def double? (n : Numeral) : Option Double :=
  match n.exponent with
  | none => some (.zero n.negative)
  | some e =>
    let power := if n.exponentNegative then n.scale - e else n.scale + e
    (scaled? (.ofInt n.significand) power).map ({ · with negative := n.negative })

def number? (n : Numeral) : Option Number :=
  match n.phase, n.full, n.negative with
  | .zero, false, false | .whole, false, false =>
    (Number.ofNat? n.significand).or (n.double?.map .real)
  | .whole, false, true =>
    if h : n.significand ≤ 0x8000000000000000 then some (.integer (-n.significand) (by omega))
    else n.double?.map .real
  | _, _, _ => n.double?.map .real

def finish? : Numeral → List Char → Option Number
  | n, [] => if n.isComplete then n.number? else none
  | n, c :: rest =>
    match n.step c with
    | .more n' => n'.finish? rest
    | _ => none

end Numeral

def Number.ofText? : List Char → Option Number
  | [] => none
  | c :: rest => (Numeral.start? c).bind (·.finish? rest)

end DocumentSchema.Json
