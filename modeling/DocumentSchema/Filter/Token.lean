import DocumentSchema.Json.Numeral
import DocumentSchema.Json.Reader

namespace DocumentSchema.Filter

open Json (Number)

inductive Token where
  | word (name : String)
  | member (name : String)
  | number (value : Number)
  | text (value : String)
  | sign (sign : String)
  deriving DecidableEq

def startsWord (c : Char) : Bool := c.isAlpha || c = '_'

def continuesWord (c : Char) : Bool := c.isAlphanum || c = '_'

def doubleSigns : List String := ["..", "//", "==", "!=", "<=", ">="]

def singleSigns : List Char :=
  ['.', '|', ',', '[', ']', '(', ')', '\x7b', '\x7d', ':', '?', '<', '>', '+', '-', '*', '/', '%']

/-- The digits at the front of a text, and what may follow digits in a number. -/
def numberLength (text : List Char) : Nat :=
  let digits (cs : List Char) : Nat := (cs.takeWhile Char.isDigit).length
  let whole := digits text
  let fraction := match text.drop whole with
    | '.' :: rest => if 0 < digits rest then digits rest + 1 else 0
    | _ => 0
  let exponent := match text.drop (whole + fraction) with
    | e :: s :: rest =>
      if e.toLower ≠ 'e' then 0
      else if s.isDigit then digits (s :: rest) + 1
      else if (s = '+' || s = '-') && 0 < digits rest then digits rest + 2
      else 0
    | _ => 0
  whole + fraction + exponent

def textLength : List Char → Option Nat
  | [] => none
  | '"' :: _ => some 0
  | '\\' :: _ :: rest => (textLength rest).map (· + 2)
  | _ :: rest => (textLength rest).map (· + 1)

def unquote (inside : List Char) : Option String :=
  match Json.read (String.ofList ('"' :: inside ++ ['"'])).toUTF8.toList with
  | .ok (.string s) => some s
  | _ => none

def token? : List Char → Option (Token × Nat)
  | [] => none
  | c :: rest =>
    let word := rest.takeWhile continuesWord
    if startsWord c then some (.word (String.ofList (c :: word)), word.length + 1)
    else if c.isDigit then
      let length := numberLength (c :: rest)
      (Number.ofText? ((c :: rest).take length)).map fun n ↦ (.number n, length)
    else if c = '"' then
      (textLength rest).bind fun length ↦
        (unquote (rest.take length)).map fun s ↦ (.text s, length + 2)
    else if c = '.' && rest.head?.any startsWord then
      some (.member (String.ofList word), word.length + 1)
    else
      let double := String.ofList (c :: rest.take 1)
      if doubleSigns.contains double then some (.sign double, 2)
      else if singleSigns.contains c then some (.sign (String.singleton c), 1)
      else none

/-- The tokens of a text. Blanks separate them, and so do comments up to the end of a line. -/
def tokens? (text : List Char) : Option (List Token) :=
  match text with
  | [] => some []
  | c :: rest =>
    if c.isWhitespace then tokens? rest
    else if c = '#' then tokens? (rest.dropWhile (· ≠ '\n'))
    else match token? (c :: rest) with
      | none => none
      | some (token, length) => (token :: ·) <$> tokens? (rest.drop (length - 1))
termination_by text.length
decreasing_by
  · simp
  · have := (List.dropWhile_suffix (l := rest) (· ≠ '\n')).length_le
    simp only [List.length_cons]
    omega
  · simp only [List.length_cons, List.length_drop]
    omega

end DocumentSchema.Filter
