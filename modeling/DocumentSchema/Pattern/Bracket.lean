import DocumentSchema.Pattern.Escape

namespace DocumentSchema.Pattern.Bracket

inductive Operator where
  | intersection
  | difference
  | symmetricDifference

def Operator.apply : Operator → CharacterSet → CharacterSet → CharacterSet
  | intersection => .intersection
  | difference => .difference
  | symmetricDifference => .symmetricDifference

/-- An open bracket with what stood before it in the enclosing one, and the operand so far of an
operator in it. -/
structure Frame where
  before : CharacterSet
  negated : Bool
  pending : Option (CharacterSet × Operator)

/-- What has been read: the open brackets, the innermost first, and the items since the last one or
the last operator. -/
structure State where
  frames : List Frame
  items : CharacterSet

def item? (flags : Flags) : Atom → Option CharacterSet
  | .literal c _ => if !flags.unicode && 0x80 ≤ c.toNat then none else some (.single c)
  | .set s => some s
  | .condition _ => none

def atom? (flags : Flags) : List Char → Option (Atom × List Char)
  | [] => none
  | '\\' :: rest => escaped? flags rest
  | c :: rest => some (.literal c false, rest)

def range? (flags : Flags) (cs : List Char) : Option (CharacterSet × List Char) := do
  let (first, rest) ← atom? flags cs
  match flags.skip rest with
  | [] => none
  | '-' :: after =>
    match flags.skip after with
    | [] => none
    | c :: tail =>
      if c = ']' || c = '-' then return (← item? flags first, '-' :: after)
      let (last, rest) ← atom? flags (c :: tail)
      match first, last with
      | .literal low _, .literal high _ =>
        let _ ← item? flags first
        let _ ← item? flags last
        if low.toNat ≤ high.toNat then return (.ranges [(low.toNat, high.toNat)], rest) else none
      | _, _ => none
  | rest => return (← item? flags first, rest)

/-- An ASCII class such as `[:alpha:]`, after its bracket. Anything else is no such class and is
read as a bracket of its own. -/
def asciiClass? (flags : Flags) : List Char → Option (CharacterSet × List Char)
  | ':' :: rest => do
    let (negated, rest) := match rest with
      | '^' :: rest => (true, rest)
      | rest => (false, rest)
    match rest.dropWhile (· ≠ ':') with
    | ':' :: ']' :: after =>
      let set ← CharacterSet.asciiClasses.lookup (String.ofList (rest.takeWhile (· ≠ ':')))
      if negated && !flags.unicode then none
      return (.negatedIf negated (flags.folded set), after)
    | _ => none
  | _ => none

def leading (flags : Flags) (cs : List Char) : CharacterSet × List Char :=
  match cs with
  | ']' :: rest => (.single ']', flags.skip rest)
  | _ =>
    let rest := cs.dropWhile (· = '-')
    (if rest.length < cs.length then .single '-' else .empty, flags.skip rest)

def open? (flags : Flags) (s : State) (cs : List Char) : Option (State × List Char) :=
  let (negated, cs) := match flags.skip cs with
    | '^' :: rest => (true, flags.skip rest)
    | cs => (false, cs)
  let (items, rest) := leading flags cs
  if rest.isEmpty || (negated && !flags.unicode) then none
  else some (⟨⟨s.items, negated, none⟩ :: s.frames, items⟩, rest)

def operand (flags : Flags) (frame : Frame) (items : CharacterSet) : CharacterSet :=
  match frame.pending with
  | none => items
  | some (left, op) => op.apply (flags.folded left) (flags.folded items)

def operator (flags : Flags) (s : State) (op : Operator) : State :=
  match s.frames with
  | [] => s
  | frame :: outer =>
    ⟨{ frame with pending := some (operand flags frame s.items, op) } :: outer, .empty⟩

def close (flags : Flags) (s : State) : Except CharacterSet State :=
  match s.frames with
  | [] => .error s.items
  | frame :: outer =>
    let set := CharacterSet.negatedIf frame.negated (flags.folded (operand flags frame s.items))
    if outer.isEmpty then .error set else .ok ⟨outer, .union frame.before set⟩

def step? (flags : Flags) (s : State) (cs : List Char) : Option (State × List Char) :=
  match cs with
  | [] => none
  | '[' :: rest =>
    match asciiClass? flags rest with
    | some (set, rest) => some ({ s with items := .union s.items set }, rest)
    | none => open? flags s rest
  | '&' :: '&' :: rest => some (operator flags s .intersection, rest)
  | '-' :: '-' :: rest => some (operator flags s .difference, rest)
  | '~' :: '~' :: rest => some (operator flags s .symmetricDifference, rest)
  | cs => (range? flags cs).map fun (set, rest) ↦ ({ s with items := .union s.items set }, rest)

def run? (flags : Flags) (s : State) (cs : List Char) : Option (CharacterSet × List Char) :=
  match flags.skip cs with
  | [] => none
  | ']' :: rest =>
    match close flags s with
    | .error set => some (set, rest)
    | .ok s => if rest.length < cs.length then run? flags s rest else none
  | next =>
    match step? flags s next with
    | none => none
    | some (s, rest) => if rest.length < cs.length then run? flags s rest else none
termination_by cs.length

def read? (flags : Flags) (cs : List Char) : Option (CharacterSet × List Char) := do
  let (s, rest) ← open? flags ⟨[], .empty⟩ cs
  run? flags s rest

end DocumentSchema.Pattern.Bracket
