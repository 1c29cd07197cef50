namespace DocumentSchema.Glob

inductive Fault where
  | starRun
  | mixedComponent
  | brokenSet
  deriving DecidableEq

def Fault.text : Fault → String
  | .starRun => "wildcards are either regular `*` or recursive `**`"
  | .mixedComponent => "recursive wildcards must form a single path component"
  | .brokenSet => "invalid range pattern"

/-- A fault and the number of characters before the place that it is put at. -/
structure Malformed where
  fault : Fault
  position : Nat
  deriving DecidableEq

def Malformed.message (m : Malformed) : String :=
  s!"Pattern syntax error near position {m.position}: {m.fault.text}"

/-- The characters from one to another. -/
structure Span where
  first : Char
  last : Char
  deriving DecidableEq

def Span.contains (s : Span) (c : Char) : Bool := s.first ≤ c && c ≤ s.last

inductive Token where
  | char (c : Char)
  | anyChar
  | anyText
  | anyDirectories
  | oneOf (spans : List Span)
  | noneOf (spans : List Span)
  deriving DecidableEq

def spans : List Char → List Span
  | a :: '-' :: b :: rest => ⟨a, b⟩ :: spans rest
  | a :: rest => ⟨a, a⟩ :: spans rest
  | [] => []

/-- What follows a bracket that opens: a set, its length up to the bracket that closes it, and the
rest. The set is not empty, so that a bracket at its start does not close it. -/
def set? : List Char → Option (Token × List Char)
  | '!' :: first :: more =>
    match more.span (· ≠ ']') with
    | (inside, _ :: rest) => some (.noneOf (spans (first :: inside)), rest)
    | (_, []) => none
  | first :: more =>
    if first = '!' then none else
      match more.span (· ≠ ']') with
      | (inside, _ :: rest) => some (.oneOf (spans (first :: inside)), rest)
      | (_, []) => none
  | [] => none

def tokens (position : Nat) (last : Option Char) (text : List Char) :
    Except Malformed (List Token) :=
  match text with
  | [] => .ok []
  | '?' :: rest => (Token.anyChar :: ·) <$> tokens (position + 1) (some '?') rest
  | '*' :: '*' :: '*' :: _ => .error ⟨.starRun, position + 2⟩
  | '*' :: '*' :: rest =>
    if last.any (· ≠ '/') then .error ⟨.mixedComponent, position - 1⟩
    else match rest with
      | [] => .ok [.anyDirectories]
      | '/' :: rest => (Token.anyDirectories :: ·) <$> tokens (position + 3) (some '/') rest
      | _ :: _ => .error ⟨.mixedComponent, position + 2⟩
  | '*' :: rest => (Token.anyText :: ·) <$> tokens (position + 1) (some '*') rest
  | '[' :: rest =>
    match set? rest with
    | none => .error ⟨.brokenSet, position⟩
    | some (token, left) =>
      if left.length < rest.length then
        (token :: ·) <$> tokens (position + 1 + (rest.length - left.length)) (some ']') left
      else .error ⟨.brokenSet, position⟩
  | c :: rest => (Token.char c :: ·) <$> tokens (position + 1) (some c) rest
termination_by text.length

abbrev Pattern := List Token

def Pattern.ofText (text : List Char) : Except Malformed Pattern := tokens 0 none text

namespace Pattern

def isRecursive (p : Pattern) : Bool := p.contains .anyDirectories

def literal? (p : Pattern) : Option String :=
  String.ofList <$> p.mapM fun
    | .char c => some c
    | _ => none

def accepts : Pattern → List Char → Bool
  | [], text => text.isEmpty
  | .anyText :: rest, text | .anyDirectories :: rest, text =>
    (List.range (text.length + 1)).any fun n ↦ accepts rest (text.drop n)
  | _ :: _, [] => false
  | .char c :: rest, d :: text => c = d && accepts rest text
  | .anyChar :: rest, _ :: text => accepts rest text
  | .oneOf spans :: rest, d :: text => spans.any (·.contains d) && accepts rest text
  | .noneOf spans :: rest, d :: text => !spans.any (·.contains d) && accepts rest text

end Pattern

end DocumentSchema.Glob
