import DocumentSchema.Json.Value
import DocumentSchema.Text.Split

namespace DocumentSchema.Json.Pointer

/-- The key that a token stands for: `~1` is a slash and `~0` a tilde. -/
def unescape : List Char → List Char
  | '~' :: '1' :: rest => '/' :: unescape rest
  | '~' :: '0' :: rest => '~' :: unescape rest
  | c :: rest => c :: unescape rest
  | [] => []

def index? (key : List Char) : Option Nat :=
  let isCanonical := match key with
    | [] => false
    | ['0'] => true
    | c :: rest => c ≠ '0' && (c :: rest).all Char.isDigit
  if isCanonical then some (Nat.ofDigitChars 10 key 0) else none

def step (v : Value) (key : List Char) : Option Value :=
  match v with
  | .object _ => v.member? (String.ofList key)
  | .array _ => (index? key).bind v.element?
  | _ => none

def keys? (pointer : List Char) : Option (List (List Char)) :=
  match Text.splitAt '/' pointer with
  | ([], rest) => some (rest.map unescape)
  | (_ :: _, _) => none

def follow (pointer : String) (v : Value) : Option Value :=
  (keys? pointer.toList).bind (·.foldlM step v)

end DocumentSchema.Json.Pointer
