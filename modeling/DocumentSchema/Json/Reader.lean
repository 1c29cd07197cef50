import DocumentSchema.Json.Numeral
import DocumentSchema.Json.Value
import DocumentSchema.Text.Utf8

namespace DocumentSchema.Json

/-- Why bytes are no JSON text. -/
inductive Reason where
  | endInValue
  | endInList
  | endInObject
  | endInString
  | expectedValue
  | expectedWord
  | expectedColon
  | expectedListEnd
  | expectedObjectEnd
  | keyNotString
  | trailingComma
  | trailingCharacters
  | invalidNumber
  | numberOutOfRange
  | controlCharacter
  | invalidEscape
  | invalidCodePoint
  | loneSurrogate
  | endOfSurrogatePair
  | tooDeep
  deriving DecidableEq

def Reason.text : Reason → String
  | .endInValue => "EOF while parsing a value"
  | .endInList => "EOF while parsing a list"
  | .endInObject => "EOF while parsing an object"
  | .endInString => "EOF while parsing a string"
  | .expectedValue => "expected value"
  | .expectedWord => "expected ident"
  | .expectedColon => "expected `:`"
  | .expectedListEnd => "expected `,` or `]`"
  | .expectedObjectEnd => "expected `,` or `\x7d`"
  | .keyNotString => "key must be a string"
  | .trailingComma => "trailing comma"
  | .trailingCharacters => "trailing characters"
  | .invalidNumber => "invalid number"
  | .numberOutOfRange => "number out of range"
  | .controlCharacter => "control character (\\u0000-\\u001F) found while parsing a string"
  | .invalidEscape => "invalid escape"
  | .invalidCodePoint => "invalid unicode code point"
  | .loneSurrogate => "lone leading surrogate in hex escape"
  | .endOfSurrogatePair => "unexpected end of hex escape"
  | .tooDeep => "recursion limit exceeded"

/-- A line, and the number of bytes before a place on it. -/
structure Place where
  line : Nat
  column : Nat
  deriving DecidableEq

def Place.start : Place := ⟨1, 0⟩

def Place.after (p : Place) (b : UInt8) : Place :=
  if b = 0x0A then ⟨p.line + 1, 0⟩ else ⟨p.line, p.column + 1⟩

structure Malformed where
  reason : Reason
  place : Place
  deriving DecidableEq

def Malformed.message (m : Malformed) : String :=
  s!"{m.reason.text} at line {m.place.line} column {m.place.column}"

namespace Reader

/-- An open array with its elements in reverse, or an open object with its members in order and the
key of the member being read. -/
inductive Frame where
  | array (reversed : List Value)
  | object (members : List (String × Value)) (key : String)

/-- Inside a string: between characters, after a backslash, among four hexadecimal digits, or
between the two escapes of a surrogate pair. `high` is the first code of such a pair. -/
inductive StringPhase where
  | plain
  | escape
  | hex (left : Nat) (code : Option Nat) (high : Option Nat)
  | pairBackslash (high : Nat)
  | pairLetter (high : Nat)

inductive Phase where
  | value
  | firstElement
  | nextElement
  | afterElement
  | firstKey
  | nextKey
  | colon
  | afterMember
  | word (rest : List Char) (value : Value)
  | numeral (numeral : Numeral)
  | string (isKey : Bool) (reversed : List UInt8) (phase : StringPhase)
  | done (value : Value)

structure State where
  stack : List Frame
  phase : Phase

def State.start : State := ⟨[], .value⟩

/-- A fault seen at a byte. Its place is after that byte, or before it if `atByte` is false, and
then a number of columns back. -/
structure Fault where
  reason : Reason
  atByte : Bool
  columnsBack : Nat

def fault {α : Type} (reason : Reason) : Except Fault α := .error ⟨reason, true, 0⟩

def depthLimit : Nat := 128

def complete (stack : List Frame) (v : Value) : State :=
  match stack with
  | [] => ⟨[], .done v⟩
  | .array items :: outer => ⟨.array (v :: items) :: outer, .afterElement⟩
  | .object members key :: outer =>
    ⟨.object (setMember members key v) key :: outer, .afterMember⟩

def close (stack : List Frame) : State :=
  match stack with
  | [] => ⟨[], .value⟩
  | .array items :: outer => complete outer (.array items.reverse)
  | .object members _ :: outer => complete outer (.object members)

def openFrame (stack : List Frame) (frame : Frame) (phase : Phase) : Except Fault State :=
  if stack.length + 1 < depthLimit then .ok ⟨frame :: stack, phase⟩ else fault .tooDeep

def startValue (stack : List Frame) (c : Char) : Except Fault State :=
  match c with
  | 'n' => .ok ⟨stack, .word ['u', 'l', 'l'] .null⟩
  | 't' => .ok ⟨stack, .word ['r', 'u', 'e'] (.bool true)⟩
  | 'f' => .ok ⟨stack, .word ['a', 'l', 's', 'e'] (.bool false)⟩
  | '"' => .ok ⟨stack, .string false [] .plain⟩
  | '[' => openFrame stack (.array []) .firstElement
  | '\x7b' => openFrame stack (.object [] "") .firstKey
  | _ =>
    match Numeral.start? c with
    | some n => .ok ⟨stack, .numeral n⟩
    | none => fault .expectedValue

def isBlank (c : Char) : Bool := c = ' ' || c = '\n' || c = '\t' || c = '\r'

def afterValue (s : State) (c : Char) : Except Fault State :=
  if isBlank c then .ok s else
    match s.phase, c with
    | .afterElement, ']' => .ok (close s.stack)
    | .afterElement, ',' => .ok ⟨s.stack, .nextElement⟩
    | .afterElement, _ => fault .expectedListEnd
    | .afterMember, '\x7d' => .ok (close s.stack)
    | .afterMember, ',' => .ok ⟨s.stack, .nextKey⟩
    | .afterMember, _ => fault .expectedObjectEnd
    | _, _ => fault .trailingCharacters

def closeString (stack : List Frame) (isKey : Bool) (reversed : List UInt8) : Except Fault State :=
  match Text.Utf8.decode reversed.reverse, isKey, stack with
  | (_, b :: left), _, _ => .error ⟨.invalidCodePoint, true, (b :: left).length⟩
  | (cs, []), true, .object members _ :: outer =>
    .ok ⟨.object members (String.ofList cs) :: outer, .colon⟩
  | (cs, []), _, _ => .ok (complete stack (.string (String.ofList cs)))

def unescape? : Char → Option Char
  | '"' => some '"'
  | '\\' => some '\\'
  | '/' => some '/'
  | 'b' => some '\x08'
  | 'f' => some '\x0c'
  | 'n' => some '\n'
  | 'r' => some '\r'
  | 't' => some '\t'
  | _ => none

def hexDigit? (c : Char) : Option Nat :=
  if c.isDigit then some (c.toNat - '0'.toNat)
  else if 'a' ≤ c && c ≤ 'f' then some (c.toNat - 'a'.toNat + 10)
  else if 'A' ≤ c && c ≤ 'F' then some (c.toNat - 'A'.toNat + 10)
  else none

def push (reversed : List UInt8) (code : Nat) : List UInt8 :=
  (String.utf8EncodeChar (Char.ofNat code)).reverse ++ reversed

def closeHex (reversed : List UInt8) (code high : Option Nat) :
    Except Fault (List UInt8 × StringPhase) :=
  match code, high with
  | none, _ => fault .invalidEscape
  | some low, some high =>
    if 0xDC00 ≤ low && low < 0xE000 then
      .ok (push reversed (0x10000 + (high - 0xD800) * 0x400 + (low - 0xDC00)), .plain)
    else fault .loneSurrogate
  | some code, none =>
    if 0xDC00 ≤ code && code < 0xE000 then fault .loneSurrogate
    else if 0xD800 ≤ code && code < 0xDC00 then .ok (reversed, .pairBackslash code)
    else .ok (push reversed code, .plain)

def stringStep (reversed : List UInt8) (phase : StringPhase) (b : UInt8) (c : Char) :
    Except Fault (List UInt8 × StringPhase) :=
  match phase with
  | .plain =>
    if c = '\\' then .ok (reversed, .escape)
    else if b < 0x20 then fault .controlCharacter
    else .ok (b :: reversed, .plain)
  | .escape =>
    if c = 'u' then .ok (reversed, .hex 4 (some 0) none)
    else match unescape? c with
      | some c => .ok (push reversed c.toNat, .plain)
      | none => fault .invalidEscape
  | .hex left code high =>
    let code := code.bind fun code ↦ (hexDigit? c).map (16 * code + ·)
    if left ≤ 1 then closeHex reversed code high else .ok (reversed, .hex (left - 1) code high)
  | .pairBackslash high =>
    if c = '\\' then .ok (reversed, .pairLetter high) else fault .endOfSurrogatePair
  | .pairLetter high =>
    if c = 'u' then .ok (reversed, .hex 4 (some 0) (some high)) else fault .endOfSurrogatePair

def step (s : State) (b : UInt8) : Except Fault State :=
  let c := Char.ofNat b.toNat
  match s.phase with
  | .value => if isBlank c then .ok s else startValue s.stack c
  | .firstElement =>
    if isBlank c then .ok s else if c = ']' then .ok (close s.stack) else startValue s.stack c
  | .nextElement =>
    if isBlank c then .ok s else if c = ']' then fault .trailingComma else startValue s.stack c
  | .firstKey =>
    if isBlank c then .ok s
    else if c = '"' then .ok ⟨s.stack, .string true [] .plain⟩
    else if c = '\x7d' then .ok (close s.stack)
    else fault .keyNotString
  | .nextKey =>
    if isBlank c then .ok s
    else if c = '"' then .ok ⟨s.stack, .string true [] .plain⟩
    else if c = '\x7d' then fault .trailingComma
    else fault .keyNotString
  | .colon =>
    if isBlank c then .ok s
    else if c = ':' then .ok ⟨s.stack, .value⟩
    else fault .expectedColon
  | .word [] v => .ok (complete s.stack v)
  | .word (expected :: rest) v =>
    if c ≠ expected then fault .expectedWord
    else if rest.isEmpty then .ok (complete s.stack v)
    else .ok ⟨s.stack, .word rest v⟩
  | .numeral n =>
    match n.step c with
    | .more n => .ok ⟨s.stack, .numeral n⟩
    | .invalid => fault .invalidNumber
    | .outOfRange => fault .numberOutOfRange
    | .complete =>
      match n.number? with
      | none => .error ⟨.numberOutOfRange, false, 0⟩
      | some v => afterValue (complete s.stack (.number v)) c
  | .string isKey reversed .plain =>
    if c = '"' then closeString s.stack isKey reversed
    else (stringStep reversed .plain b c).map fun (r, p) ↦ ⟨s.stack, .string isKey r p⟩
  | .string isKey reversed phase =>
    (stringStep reversed phase b c).map fun (r, p) ↦ ⟨s.stack, .string isKey r p⟩
  | .afterElement | .afterMember | .done _ => afterValue s c

/-- The end of the input inside an array or object, or after the whole value. -/
def finishValue (s : State) : Except Reason Value :=
  match s.phase with
  | .afterElement => .error .endInList
  | .afterMember => .error .endInObject
  | .done v => .ok v
  | _ => .error .endInValue

def finish (s : State) : Except Reason Value :=
  match s.phase with
  | .value | .nextElement | .nextKey | .word _ _ => .error .endInValue
  | .firstElement => .error .endInList
  | .firstKey | .colon => .error .endInObject
  | .string _ _ _ => .error .endInString
  | .numeral n =>
    if n.isComplete then
      match n.number? with
      | none => .error .numberOutOfRange
      | some v => finishValue (complete s.stack (.number v))
    else .error .endInValue
  | .afterElement | .afterMember | .done _ => finishValue s

def run (s : State) (place : Place) : List UInt8 → Except Malformed Value
  | [] => (finish s).mapError (⟨·, place⟩)
  | b :: rest =>
    match step s b with
    | .ok s => run s (place.after b) rest
    | .error f =>
      let seenAt := if f.atByte then place.after b else place
      .error ⟨f.reason, seenAt.line, seenAt.column - f.columnsBack⟩

end Reader

def read (bytes : List UInt8) : Except Malformed Value := Reader.run .start .start bytes

end DocumentSchema.Json
