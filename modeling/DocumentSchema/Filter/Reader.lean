import DocumentSchema.Filter.Term
import DocumentSchema.Filter.Token

namespace DocumentSchema.Filter

def skip (sign : String) : List Token → Option (List Token)
  | .sign s :: rest => if s = sign then some rest else none
  | _ => none

def skipWord (word : String) : List Token → Option (List Token)
  | .word w :: rest => if w = word then some rest else none
  | _ => none

def optionalMark (tokens : List Token) : Bool × List Token :=
  match skip "?" tokens with
  | some rest => (true, rest)
  | none => (false, tokens)

def operator? (least : Nat) (tokens : List Token) : Option (Operator × List Token) :=
  let found : Option (Operator × List Token) := match tokens with
    | .sign s :: rest => (Operator.ofSign? s).map (·, rest)
    | .word w :: rest => (Operator.ofWord? w).map (·, rest)
    | _ => none
  found.filter fun (op, _) ↦ least ≤ op.precedence

mutual

/-- A filter with operators that bind at least as closely as given. -/
def parseTerm (fuel least : Nat) (tokens : List Token) : Option (Term × List Token) :=
  match fuel with
  | 0 => none
  | fuel + 1 => do
    let (left, rest) ← parseUnary fuel tokens
    parseOperations fuel least left rest

def parseOperations (fuel least : Nat) (left : Term) (tokens : List Token) :
    Option (Term × List Token) :=
  match fuel, operator? least tokens with
  | 0, _ => none
  | _ + 1, none => some (left, tokens)
  | fuel + 1, some (op, rest) => do
    let above := if op.associatesRight then op.precedence else op.precedence + 1
    let (right, rest) ← parseTerm fuel above rest
    parseOperations fuel least (.operation op left right) rest

def parseUnary (fuel : Nat) (tokens : List Token) : Option (Term × List Token) :=
  match fuel with
  | 0 => none
  | fuel + 1 =>
    match skip "-" tokens with
    | some rest => do
      let (term, rest) ← parseUnary fuel rest
      return (.negate term, rest)
    | none => do
      let (term, rest) ← parseAtom fuel tokens
      parseSuffixes fuel term rest

def parseSuffixes (fuel : Nat) (term : Term) (tokens : List Token) : Option (Term × List Token) :=
  match fuel with
  | 0 => none
  | fuel + 1 =>
    match tokens with
    | .member name :: rest =>
      let (isOptional, rest) := optionalMark rest
      parseSuffixes fuel (term.field name isOptional) rest
    | .sign "." :: .text name :: rest =>
      let (isOptional, rest) := optionalMark rest
      parseSuffixes fuel (term.field name isOptional) rest
    | .sign "." :: .sign "[" :: rest | .sign "[" :: rest => do
      let (term, rest) ← parseBrackets fuel term rest
      parseSuffixes fuel term rest
    | .sign "?" :: rest => parseSuffixes fuel (.attempt term) rest
    | _ => some (term, tokens)

def parseBrackets (fuel : Nat) (term : Term) (tokens : List Token) : Option (Term × List Token) :=
  match fuel with
  | 0 => none
  | fuel + 1 =>
    match skip "]" tokens with
    | some rest =>
      let (isOptional, rest) := optionalMark rest
      some (.each term isOptional, rest)
    | none => do
      let (key, rest) ← parseTerm fuel 0 tokens
      let (isOptional, rest) := optionalMark (← skip "]" rest)
      return (.index term key isOptional, rest)

def parseAtom (fuel : Nat) (tokens : List Token) : Option (Term × List Token) :=
  match fuel with
  | 0 => none
  | fuel + 1 =>
    match tokens with
    | .number n :: rest => some (.literal (.number n), rest)
    | .text s :: rest => some (.literal (.string s), rest)
    | .member _ :: _ => some (.identity, tokens)
    | .sign ".." :: rest => some (.recurse, rest)
    | .sign "." :: .text name :: rest =>
      let (isOptional, rest) := optionalMark rest
      some (Term.identity.field name isOptional, rest)
    | .sign "." :: rest => some (.identity, rest)
    | .sign "(" :: rest => do
      let (term, rest) ← parseTerm fuel 0 rest
      return (term, ← skip ")" rest)
    | .sign "[" :: .sign "]" :: rest => some (.array .empty, rest)
    | .sign "[" :: rest => do
      let (items, rest) ← parseTerm fuel 0 rest
      return (.array items, ← skip "]" rest)
    | .sign "\x7b" :: .sign "\x7d" :: rest => some (.object [], rest)
    | .sign "\x7b" :: rest => do
      let (entries, rest) ← parseEntries fuel rest
      return (.object entries, rest)
    | .word "if" :: rest => parseConditional fuel rest
    | .word name :: .sign "(" :: rest => do
      let (argument, rest) ← parseTerm fuel 0 rest
      return (← Term.ofCall? name argument, ← skip ")" rest)
    | .word name :: rest => (Term.ofWord? name).map (·, rest)
    | _ => none

def parseConditional (fuel : Nat) (tokens : List Token) : Option (Term × List Token) :=
  match fuel with
  | 0 => none
  | fuel + 1 => do
    let (condition, rest) ← parseTerm fuel 0 tokens
    let (yes, rest) ← parseTerm fuel 0 (← skipWord "then" rest)
    match rest with
    | .word "elif" :: rest => do
      let (no, rest) ← parseConditional fuel rest
      return (.conditional condition yes no, rest)
    | .word "else" :: rest => do
      let (no, rest) ← parseTerm fuel 0 rest
      return (.conditional condition yes no, ← skipWord "end" rest)
    | _ => return (.conditional condition yes .identity, ← skipWord "end" rest)

def parseEntries (fuel : Nat) (tokens : List Token) : Option (List (Term × Term) × List Token) :=
  match fuel with
  | 0 => none
  | fuel + 1 => do
    let (entry, rest) ← parseEntry fuel tokens
    match rest with
    | .sign "\x7d" :: rest => return ([entry], rest)
    | .sign "," :: .sign "\x7d" :: rest => return ([entry], rest)
    | .sign "," :: rest => do
      let (entries, rest) ← parseEntries fuel rest
      return (entry :: entries, rest)
    | _ => none

/-- A key and its value. Without a value, a key that is a name stands for the member under it. -/
def parseEntry (fuel : Nat) (tokens : List Token) : Option ((Term × Term) × List Token) :=
  match fuel with
  | 0 => none
  | fuel + 1 =>
    match tokens with
    | .word name :: rest | .text name :: rest =>
      let key := Term.literal (.string name)
      match skip ":" rest with
      | none => some ((key, Term.identity.field name false), rest)
      | some rest => do
        let (value, rest) ← parseEntryValue fuel rest
        return ((key, value), rest)
    | .sign "(" :: rest => do
      let (key, rest) ← parseTerm fuel 0 rest
      let rest ← (skip ")" rest).bind (skip ":")
      let (value, rest) ← parseEntryValue fuel rest
      return ((key, value), rest)
    | _ => none

/-- The value of an entry: a comma ends it, a pipe does not. -/
def parseEntryValue (fuel : Nat) (tokens : List Token) : Option (Term × List Token) :=
  match fuel with
  | 0 => none
  | fuel + 1 => do
    let (value, rest) ← parseTerm fuel (Operator.precedence .alternative) tokens
    match skip "|" rest with
    | none => return (value, rest)
    | some rest => do
      let (last, rest) ← parseEntryValue fuel rest
      return (.operation .pipe value last, rest)

end

def Term.ofText? (text : List Char) : Option Term := do
  let tokens ← tokens? text
  let (term, rest) ← parseTerm (3 * tokens.length + 3) 0 tokens
  if rest.isEmpty then some term else none

end DocumentSchema.Filter
