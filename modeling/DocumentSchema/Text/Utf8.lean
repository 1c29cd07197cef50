namespace DocumentSchema.Text.Utf8

def gather? : (count : Nat) → (bits : Nat) → List UInt8 → Option Nat
  | 0, bits, _ => some bits
  | _ + 1, _, [] => none
  | count + 1, bits, b :: rest =>
    if 0x80 ≤ b && b < 0xC0 then gather? count (64 * bits + (b.toNat - 0x80)) rest else none

/-- How many continuation bytes a leading byte asks for, its own bits, and the least code point that
needs this length. -/
def leading? (b : UInt8) : Option (Nat × Nat × Nat) :=
  if b < 0x80 then some (0, b.toNat, 0)
  else if b < 0xC0 then none
  else if b < 0xE0 then some (1, b.toNat - 0xC0, 0x80)
  else if b < 0xF0 then some (2, b.toNat - 0xE0, 0x800)
  else if b < 0xF8 then some (3, b.toNat - 0xF0, 0x10000)
  else none

def first? (b : UInt8) (rest : List UInt8) : Option (Char × Nat) := do
  let (count, bits, least) ← leading? b
  let code ← gather? count bits rest
  if least ≤ code ∧ code.isValidChar then some (Char.ofNat code, count) else none

def decode : List UInt8 → List Char × List UInt8
  | [] => ([], [])
  | b :: rest =>
    match first? b rest with
    | none => ([], b :: rest)
    | some (c, count) =>
      let (cs, left) := decode (rest.drop count)
      (c :: cs, left)
termination_by bytes => bytes.length
decreasing_by simp only [List.length_drop, List.length_cons]; omega

def text? (bytes : List UInt8) : Option String :=
  match decode bytes with
  | (cs, []) => some (String.ofList cs)
  | (_, _ :: _) => none

end DocumentSchema.Text.Utf8
