import DocumentSchema.Json.Value

namespace DocumentSchema.Filter

open Json (Value)

inductive Operator where
  | pipe
  | comma
  | alternative
  | or
  | and
  | equal
  | unequal
  | less
  | lessEqual
  | greater
  | greaterEqual
  | add
  | subtract
  | multiply
  | divide
  | remainder
  deriving DecidableEq

namespace Operator

def precedence : Operator → Nat
  | pipe => 0
  | comma => 1
  | alternative => 2
  | or => 3
  | and => 4
  | equal | unequal | less | lessEqual | greater | greaterEqual => 5
  | add | subtract => 6
  | multiply | divide | remainder => 7

/-- Of several such operators in a row, the last one binds first. -/
def associatesRight : Operator → Bool
  | pipe | alternative => true
  | _ => false

def ofSign? : String → Option Operator
  | "|" => some pipe
  | "," => some comma
  | "//" => some alternative
  | "==" => some equal
  | "!=" => some unequal
  | "<" => some less
  | "<=" => some lessEqual
  | ">" => some greater
  | ">=" => some greaterEqual
  | "+" => some add
  | "-" => some subtract
  | "*" => some multiply
  | "/" => some divide
  | "%" => some remainder
  | _ => none

def ofWord? : String → Option Operator
  | "or" => some or
  | "and" => some and
  | _ => none

end Operator

/-- Functions of one value that give one value or fail. -/
inductive Function where
  | not
  | length
  | keys
  | add
  | type
  | last
  | reverse
  | toText
  | toEntries
  | any
  | all
  deriving DecidableEq

inductive Term where
  | identity
  | recurse
  | empty
  | error
  | literal (value : Value)
  | index (term key : Term) (isOptional : Bool)
  | each (term : Term) (isOptional : Bool)
  | attempt (term : Term)
  | negate (term : Term)
  | operation (operator : Operator) (left right : Term)
  | array (items : Term)
  | object (entries : List (Term × Term))
  | conditional (condition yes no : Term)
  | first (term : Term)
  | has (key : Term)
  | apply (function : Function)

namespace Term

def field (term : Term) (name : String) (isOptional : Bool) : Term :=
  .index term (.literal (.string name)) isOptional

def select (condition : Term) : Term := .conditional condition .identity .empty

def map (term : Term) : Term := .array (.operation .pipe (.each .identity false) term)

def ofWord? : String → Option Term
  | "null" => some (.literal .null)
  | "true" => some (.literal (.bool true))
  | "false" => some (.literal (.bool false))
  | "empty" => some .empty
  | "error" => some .error
  | "recurse" => some .recurse
  | "values" => some (select (.operation .unequal .identity (.literal .null)))
  | "first" => some (.index .identity (.literal (.number (.ofNat 0))) false)
  | "last" => some (.apply .last)
  | "not" => some (.apply .not)
  | "length" => some (.apply .length)
  | "keys" => some (.apply .keys)
  | "add" => some (.apply .add)
  | "type" => some (.apply .type)
  | "reverse" => some (.apply .reverse)
  | "tostring" => some (.apply .toText)
  | "to_entries" => some (.apply .toEntries)
  | "any" => some (.apply .any)
  | "all" => some (.apply .all)
  | _ => none

def ofCall? : String → Term → Option Term
  | "select", condition => some (select condition)
  | "map", term => some (map term)
  | "first", term => some (.first term)
  | "has", key => some (.has key)
  | _, _ => none

end Term

end DocumentSchema.Filter
