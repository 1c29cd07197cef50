import DocumentSchema.Blueprint.SyntaxFault
import DocumentSchema.Json.Numeral
import DocumentSchema.Text.Alphabetic
import DocumentSchema.Text.Blank
import DocumentSchema.Text.Numeric

namespace DocumentSchema.Blueprint.Lexer

def startsWord (c : Char) : Bool := Text.isAlphabetic c || c = '_'

def continuesWord (c : Char) : Bool := Text.isAlphabetic c || Text.isNumeric c || c = '_'

def startsNumber (c : Char) : Bool := c.isDigit || c = '-'

/-- A number takes every character that could belong to one; whether it is one shows at its end. -/
def continuesNumber (c : Char) : Bool :=
  c.isDigit || c = '-' || c = '+' || c = '.' || c = 'e' || c = 'E'

def unescape? : Char → Option Char
  | 'n' => some '\n'
  | 'r' => some '\r'
  | 't' => some '\t'
  | '\\' => some '\\'
  | '"' => some '"'
  | _ => none

/-- What the last characters belong to. Where this began is kept with it, and its text in reverse. -/
inductive Phase where
  | blank
  | slash (start : Location)
  | lineComment
  | blockComment (start : Location) (afterStar : Bool)
  | word (start : Location) (reversed : List Char)
  | number (start : Location) (reversed : List Char)
  | string (start : Location) (reversed : List Char)
  | escape (start : Location) (reversed : List Char)
  deriving DecidableEq

structure State where
  phase : Phase
  next : Location
  reversed : List (Located Token)
  deriving DecidableEq

def State.start : State := ⟨.blank, .start, []⟩

abbrev Result (α : Type) := Except (Located SyntaxFault) α

def fault {α : Type} (cause : SyntaxFault) (location : Location) : Result α :=
  .error ⟨cause, location⟩

def State.advance (s : State) (c : Char) (phase : Phase) : State :=
  { s with phase, next := s.next.after c }

def State.emit (s : State) (token : Token) (start : Location) : State :=
  { s with phase := .blank, reversed := ⟨token, start⟩ :: s.reversed }

def stepBlank (s : State) (c : Char) : Result State :=
  if Text.isBlank c then .ok (s.advance c .blank)
  else if c = '#' then .ok (s.advance c .lineComment)
  else if c = '/' then .ok (s.advance c (.slash s.next))
  else if c = '"' then .ok (s.advance c (.string s.next []))
  else if startsNumber c then .ok (s.advance c (.number s.next [c]))
  else if startsWord c then .ok (s.advance c (.word s.next [c]))
  else match Punctuation.ofChar? c with
    | some p => .ok ((s.emit (.punctuation p) s.next).advance c .blank)
    | none => fault (.unexpectedCharacter c) s.next

def closeNumber (s : State) (start : Location) (reversed : List Char) : Result State :=
  match Json.Number.ofText? reversed.reverse with
  | some n => .ok (s.emit (.number n) start)
  | none => fault (.invalidNumber (String.ofList reversed.reverse)) start

def step (s : State) (c : Char) : Result State :=
  match s.phase with
  | .blank => stepBlank s c
  | .slash start =>
    if c = '/' then .ok (s.advance c .lineComment)
    else if c = '*' then .ok (s.advance c (.blockComment start false))
    else fault (.unexpectedCharacter '/') start
  | .lineComment => .ok (s.advance c (if c = '\n' then .blank else .lineComment))
  | .blockComment start afterStar =>
    .ok (s.advance c (if afterStar && c = '/' then .blank else .blockComment start (c = '*')))
  | .word start reversed =>
    if continuesWord c then .ok (s.advance c (.word start (c :: reversed)))
    else stepBlank (s.emit (.word (String.ofList reversed.reverse)) start) c
  | .number start reversed =>
    if continuesNumber c then .ok (s.advance c (.number start (c :: reversed)))
    else do stepBlank (← closeNumber s start reversed) c
  | .string start reversed =>
    if c = '"' then
      .ok ((s.emit (.string (String.ofList reversed.reverse)) start).advance c .blank)
    else if c = '\\' then .ok (s.advance c (.escape start reversed))
    else if c = '\n' then fault .unterminatedString start
    else .ok (s.advance c (.string start (c :: reversed)))
  | .escape start reversed =>
    match unescape? c with
    | some e => .ok (s.advance c (.string start (e :: reversed)))
    | none => fault (.invalidEscape c) start

def close (s : State) : Result State :=
  match s.phase with
  | .blank | .lineComment => .ok s
  | .slash start => fault (.unexpectedCharacter '/') start
  | .blockComment start _ => fault .unterminatedComment start
  | .word start reversed => .ok (s.emit (.word (String.ofList reversed.reverse)) start)
  | .number start reversed => closeNumber s start reversed
  | .string start _ | .escape start _ => fault .unterminatedString start

end Lexer

/-- The tokens of a text, the end of the input last. -/
def tokenize (text : List Char) : Lexer.Result (List (Located Token)) := do
  let s ← text.foldlM Lexer.step .start
  let s ← Lexer.close s
  return (s.emit .endOfInput s.next).reversed.reverse

end DocumentSchema.Blueprint
