import DocumentSchema.Pattern.Bracket

namespace DocumentSchema.Pattern

namespace Reader

/-- A part of a pattern with its depth of nesting. Switches are parts that nothing can repeat. -/
structure Piece where
  expression : Expression
  depth : Nat
  isSwitch : Bool

/-- What is known of a group while it is open: the alternatives before the current one and the parts
of that one, the latest first in both. -/
structure Group where
  alternatives : List Piece
  pieces : List Piece

structure State where
  flags : Flags
  group : Group
  outer : List (Flags × Group)
  names : List (List Char)

def State.start : State := ⟨.start, ⟨[], []⟩, [], []⟩

def State.push (s : State) (e : Expression) (depth : Nat) : State :=
  { s with group := { s.group with pieces := ⟨e, depth, false⟩ :: s.group.pieces } }

def Piece.join (join : Expression → Expression → Expression) (p q : Piece) : Piece :=
  ⟨join p.expression q.expression, max p.depth q.depth, false⟩

def joinAll (join : Expression → Expression → Expression) (last : Piece) (before : List Piece) :
    Piece :=
  let all := before.foldl (fun all p ↦ p.join join all) last
  if before.isEmpty then all else { all with depth := all.depth + 1 }

def sequence : List Piece → Piece
  | [] => ⟨.empty, 0, false⟩
  | last :: before => joinAll .sequence last before

def Group.close (g : Group) : Piece := joinAll .either (sequence g.pieces) g.alternatives

def State.alternative (s : State) : State :=
  { s with group := ⟨sequence s.group.pieces :: s.group.alternatives, []⟩ }

def expression? (flags : Flags) : Atom → Option Expression
  | .literal c _ =>
    if !flags.unicode && 0x80 ≤ c.toNat then none
    else some (.character (flags.folded (.single c)))
  | .set s => some (.character s)
  | .condition c => some (.condition c)

def dot? (flags : Flags) : Option Expression :=
  if !flags.unicode then none
  else if flags.dotAll then some (.character .all)
  else if flags.carriageReturn then
    some (.character (.complement (.ranges [(0x0A, 0x0A), (0x0D, 0x0D)])))
  else some (.character (.complement (.single '\n')))

def startCondition (flags : Flags) : Condition :=
  if !flags.multiLine then .textStart
  else if flags.carriageReturn then .anyLineStart
  else .lineStart

def endCondition (flags : Flags) : Condition :=
  if !flags.multiLine then .textEnd
  else if flags.carriageReturn then .anyLineEnd
  else .lineEnd

/-- Repeats the last part. A question mark after a repetition asks for short matches first, which
does not change whether there is one. -/
def repeat? (s : State) (least : Nat) (most : Option Nat) (rest : List Char) :
    Option (State × List Char) :=
  match s.group.pieces with
  | [] => none
  | ⟨e, depth, isSwitch⟩ :: before =>
    if isSwitch then none else
      let rest := match rest with
        | '?' :: rest => rest
        | rest => rest
      let piece := ⟨.repeated e least most, depth + 1, false⟩
      some ({ s with group := { s.group with pieces := piece :: before } }, rest)

def count? (flags : Flags) (cs : List Char) : Option Nat × List Char :=
  let isPart (c : Char) : Bool := c.isDigit || (flags.skipBlanks && Text.isBlank c)
  let cs := cs.dropWhile Text.isBlank
  let digits := (cs.takeWhile isPart).filter Char.isDigit
  let n := digits.foldl (fun n d ↦ 10 * n + (d.toNat - '0'.toNat)) 0
  (if digits.isEmpty || 0x100000000 ≤ n then none else some n,
    (cs.dropWhile isPart).dropWhile Text.isBlank)

def counted? (s : State) (cs : List Char) : Option (State × List Char) := do
  let (least, rest) := count? s.flags (s.flags.skip cs)
  let least ← least
  match rest with
  | '\x7d' :: rest => repeat? s least (some least) (s.flags.skip rest)
  | ',' :: rest =>
    match s.flags.skip rest with
    | '\x7d' :: rest => repeat? s least none (s.flags.skip rest)
    | rest =>
      match count? s.flags rest with
      | (some most, '\x7d' :: rest) =>
        if least ≤ most then repeat? s least (some most) (s.flags.skip rest) else none
      | _ => none
  | _ => none

def switch? (flags : Flags) (on : Bool) : Char → Option Flags
  | 'i' => some { flags with ignoreCase := on }
  | 'm' => some { flags with multiLine := on }
  | 's' => some { flags with dotAll := on }
  | 'R' => some { flags with carriageReturn := on }
  | 'u' => some { flags with unicode := on }
  | 'x' => some { flags with skipBlanks := on }
  | 'U' => some flags
  | _ => none

/-- Switches up to a colon or a closing parenthesis, which is given back with the rest. Those after
a hyphen are turned off; none may be given twice, and a hyphen not last. -/
def switches? (flags : Flags) (seen : List Char) : List Char → Option (Flags × List Char × List Char)
  | [] => none
  | c :: rest =>
    if c = ':' || c = ')' then
      if seen.head? = some '-' then none else some (flags, seen, c :: rest)
    else if seen.contains c then none
    else if c = '-' then switches? flags ('-' :: seen) rest
    else do switches? (← switch? flags (!seen.contains '-') c) (c :: seen) rest

def State.openGroup (s : State) (flags : Flags) : State :=
  { s with flags, group := ⟨[], []⟩, outer := (s.flags, s.group) :: s.outer }

def named? (s : State) (cs : List Char) : Option (State × List Char) := do
  let (name, rest) ← upTo? '>' cs
  let isFirst (c : Char) : Bool := c = '_' || Text.isAlphabetic c
  let isNext (c : Char) : Bool :=
    c ∈ ['_', '.', '[', ']'] || Text.isAlphabetic c || Text.isNumeric c
  match name with
  | [] => none
  | c :: cs =>
    if isFirst c && cs.all isNext && !s.names.contains name then
      return ({ s with names := name :: s.names }.openGroup s.flags, rest)
    else none

/-- What an opening parenthesis begins: a group, or switches for the rest of the current one.
Conditions on the text around a place are not part of the language. -/
def open? (s : State) (cs : List Char) : Option (State × List Char) :=
  match s.flags.skip cs with
  | '?' :: '=' :: _ | '?' :: '!' :: _ | '?' :: '<' :: '=' :: _ | '?' :: '<' :: '!' :: _ => none
  | '?' :: 'P' :: '<' :: rest | '?' :: '<' :: rest => named? s rest
  | '?' :: rest => do
    match ← switches? s.flags [] rest with
    | (flags, _, ':' :: rest) => return (s.openGroup flags, rest)
    | (flags, seen, rest) =>
      if seen.isEmpty then none
      let pieces := ⟨.empty, 0, true⟩ :: s.group.pieces
      return ({ s with flags, group := { s.group with pieces } }, rest.drop 1)
  | rest => some (s.openGroup s.flags, rest)

def close? (s : State) : Option State :=
  match s.outer with
  | [] => none
  | (flags, group) :: outer =>
    let piece := s.group.close
    some ({ s with flags, group, outer }.push piece.expression (piece.depth + 1))

def step? (s : State) (c : Char) (rest : List Char) : Option (State × List Char) :=
  match c with
  | '(' => open? s rest
  | ')' => (close? s).map (·, rest)
  | '|' => some (s.alternative, rest)
  | '[' => (Bracket.read? s.flags rest).map fun (set, rest) ↦ (s.push (.character set) 1, rest)
  | '?' => repeat? s 0 (some 1) rest
  | '*' => repeat? s 0 none rest
  | '+' => repeat? s 1 none rest
  | '\x7b' => counted? s rest
  | '.' => (dot? s.flags).map fun e ↦ (s.push e 0, rest)
  | '^' => some (s.push (.condition (startCondition s.flags)) 0, rest)
  | '$' => some (s.push (.condition (endCondition s.flags)) 0, rest)
  | '\\' => do
    let (atom, rest) ← escaped? s.flags rest
    return (s.push (← expression? s.flags atom) 0, rest)
  | c => do return (s.push (← expression? s.flags (.literal c false)) 0, rest)

def run? (s : State) (cs : List Char) : Option State :=
  match s.flags.skip cs with
  | [] => some s
  | c :: next =>
    match step? s c next with
    | none => none
    | some (s, rest) => if rest.length < cs.length then run? s rest else none
termination_by cs.length

def depthLimit : Nat := 250

def weightLimit : Nat := 10 <<< 20

end Reader

def Expression.ofText? (text : List Char) : Option Expression := do
  let s ← Reader.run? .start text
  if !s.outer.isEmpty then none
  let piece := s.group.close
  if piece.depth ≤ Reader.depthLimit && piece.expression.weight ≤ Reader.weightLimit then
    some piece.expression
  else none

end DocumentSchema.Pattern
