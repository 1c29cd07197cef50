import DocumentSchema.Pattern.Expression

namespace DocumentSchema.Pattern

/-- The switches in force at a place of a pattern. -/
structure Flags where
  ignoreCase : Bool
  multiLine : Bool
  dotAll : Bool
  carriageReturn : Bool
  unicode : Bool
  skipBlanks : Bool
  deriving DecidableEq

def Flags.start : Flags := ⟨false, false, false, false, true, false⟩

def dropBlanks : (inComment : Bool) → List Char → List Char
  | _, [] => []
  | true, c :: rest => dropBlanks (c ≠ '\n') rest
  | false, c :: rest =>
    if c = '#' then dropBlanks true rest
    else if Text.isBlank c then dropBlanks false rest
    else c :: rest

def Flags.skip (flags : Flags) (cs : List Char) : List Char :=
  if flags.skipBlanks then dropBlanks false cs else cs

def Flags.folded (flags : Flags) (s : CharacterSet) : CharacterSet :=
  if !flags.ignoreCase then s else if flags.unicode then .caseClosed s else .asciiCaseClosed s

/-- One thing that a pattern can name besides groups, brackets and repetitions. -/
inductive Atom where
  | literal (c : Char) (isByte : Bool)
  | set (set : CharacterSet)
  | condition (condition : Condition)

def isSpecial (c : Char) : Bool := c ∈ "\\.+*?()|[]\x7b\x7d^$#&-~".toList

def hexDigit? (c : Char) : Option Nat :=
  if c.isDigit then some (c.toNat - '0'.toNat)
  else if 'a' ≤ c && c ≤ 'f' then some (c.toNat - 'a'.toNat + 10)
  else if 'A' ≤ c && c ≤ 'F' then some (c.toNat - 'A'.toNat + 10)
  else none

def characterOf? (digits : List Nat) : Option Char :=
  let code := digits.foldl (fun n d ↦ 16 * n + d) 0
  if code.isValidChar then some (Char.ofNat code) else none

def hexDigits? (flags : Flags) : (count : Nat) → List Char → Option (List Nat × List Char)
  | 0, cs => some ([], cs)
  | _ + 1, [] => none
  | count + 1, c :: rest => do
    let d ← hexDigit? c
    let (ds, rest) ← hexDigits? flags count (flags.skip rest)
    return (d :: ds, rest)

def upTo? (mark : Char) (cs : List Char) : Option (List Char × List Char) :=
  match cs.dropWhile (· ≠ mark) with
  | [] => none
  | _ :: rest => some (cs.takeWhile (· ≠ mark), rest)

def hexadecimal? (flags : Flags) (count : Nat) (cs : List Char) : Option (Atom × List Char) :=
  match flags.skip cs with
  | '\x7b' :: rest => do
    let (text, rest) ← upTo? '\x7d' rest
    let digits ← (if flags.skipBlanks then dropBlanksWithin text else text).mapM hexDigit?
    if digits.isEmpty then none
    return (.literal (← characterOf? digits) false, rest)
  | cs => do
    let (digits, rest) ← hexDigits? flags count cs
    return (.literal (← characterOf? digits) (count = 2), rest)
where
  dropBlanksWithin (text : List Char) : List Char := text.filter (!Text.isBlank ·)

def splitAt? (mark : List Char) : List Char → Option (List Char × List Char)
  | [] => none
  | c :: rest =>
    if mark.isPrefixOf (c :: rest) then some ([], (c :: rest).drop mark.length)
    else (splitAt? mark rest).map fun (before, after) ↦ (c :: before, after)

def propertySet? (flags : Flags) (negated : Bool) (text : List Char) : Option CharacterSet :=
  let put (negated : Bool) (s : CharacterSet) := CharacterSet.negatedIf negated (flags.folded s)
  match splitAt? ['!', '='] text, splitAt? [':'] text, splitAt? ['='] text with
  | some (name, value), _, _ => (CharacterSet.ofValue? name value).map (put !negated)
  | none, some (name, value), _ => (CharacterSet.ofValue? name value).map (put negated)
  | none, none, some (name, value) => (CharacterSet.ofValue? name value).map (put negated)
  | none, none, none => (CharacterSet.ofName? text).map (put negated)

def property? (flags : Flags) (negated : Bool) (cs : List Char) : Option (Atom × List Char) :=
  if !flags.unicode then none else
    match flags.skip cs with
    | [] => none
    | '\x7b' :: rest => do
      let (text, rest) ← upTo? '\x7d' rest
      return (.set (← propertySet? flags negated text), rest)
    | c :: rest => do
      if c = '\\' then none
      return (.set (← propertySet? flags negated [c]), rest)

/-- A class by one letter, negated by the capital one. Outside Unicode the negated classes would
hold parts of characters and are refused. -/
def letterClass? (flags : Flags) (c : Char) : Option Atom :=
  let set := match c.toLower with
    | 'd' => if flags.unicode then CharacterSet.digit else .asciiDigit
    | 's' => if flags.unicode then CharacterSet.space else .asciiSpace
    | _ => if flags.unicode then CharacterSet.word else .asciiWord
  if c.isUpper then
    if flags.unicode then some (.set (.complement set)) else none
  else some (.set set)

def Flags.word (flags : Flags) : CharacterSet := if flags.unicode then .word else .asciiWord

def boundary? (flags : Flags) : String → Option Condition
  | "start" => some (.wordStart flags.word)
  | "end" => some (.wordEnd flags.word)
  | "start-half" => some (.noWordBefore flags.word)
  | "end-half" => some (.noWordAfter flags.word)
  | _ => none

/-- After `b`: a kind of boundary in braces. Braces that hold no word are left to be read as a
count. -/
def wordBoundary? (flags : Flags) (cs : List Char) : Option (Atom × List Char) :=
  let isName (c : Char) : Bool := c.isAlpha || c = '-'
  let plain := (Atom.condition (.wordBoundary flags.word), cs)
  match cs with
  | '\x7b' :: rest =>
    match flags.skip rest with
    | [] => none
    | c :: name =>
      if !isName c then some plain else do
        let (text, rest) ← upTo? '\x7d' (c :: name)
        let text := if flags.skipBlanks then text.filter (!Text.isBlank ·) else text
        return (.condition (← boundary? flags (String.ofList text)), rest)
  | _ => some plain

def escaped? (flags : Flags) : List Char → Option (Atom × List Char)
  | [] => none
  | c :: rest =>
    if c.isDigit then none
    else if c = 'x' then hexadecimal? flags 2 rest
    else if c = 'u' then hexadecimal? flags 4 rest
    else if c = 'U' then hexadecimal? flags 8 rest
    else if c = 'p' || c = 'P' then property? flags (c = 'P') rest
    else if c ∈ ['d', 'D', 's', 'S', 'w', 'W'] then (letterClass? flags c).map (·, rest)
    else if c = 'b' then wordBoundary? flags rest
    else match c with
      | 'a' => some (.literal '\x07' false, rest)
      | 'f' => some (.literal '\x0c' false, rest)
      | 't' => some (.literal '\t' false, rest)
      | 'n' => some (.literal '\n' false, rest)
      | 'r' => some (.literal '\r' false, rest)
      | 'v' => some (.literal '\x0b' false, rest)
      | 'A' => some (.condition .textStart, rest)
      | 'z' => some (.condition .textEnd, rest)
      | 'B' => some (.condition (.notWordBoundary flags.word), rest)
      | '<' => some (.condition (.wordStart flags.word), rest)
      | '>' => some (.condition (.wordEnd flags.word), rest)
      | _ =>
        if isSpecial c || (c.toNat < 0x80 && !c.isAlphanum) then some (.literal c false, rest)
        else none

end DocumentSchema.Pattern
