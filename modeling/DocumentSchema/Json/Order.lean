import DocumentSchema.Json.Value

namespace DocumentSchema.Json

namespace Value

mutual

/-- The value with all members sorted by their keys. -/
def sorted : Value → Value
  | .array items => .array (sortedItems items)
  | .object members => .object ((sortedMembers members).mergeSort fun a b ↦ a.1 ≤ b.1)
  | v => v

def sortedItems : List Value → List Value
  | [] => []
  | v :: rest => v.sorted :: sortedItems rest

def sortedMembers : List (String × Value) → List (String × Value)
  | [] => []
  | (key, v) :: rest => (key, v.sorted) :: sortedMembers rest

end

/-- The rank of the sort of a value. -/
def rank : Value → Nat
  | .null => 0
  | .bool false => 1
  | .bool true => 2
  | .number _ => 3
  | .string _ => 4
  | .array _ => 5
  | .object _ => 6

def compareKeys : List (String × Value) → List (String × Value) → Ordering
  | [], [] => .eq
  | [], _ :: _ => .lt
  | _ :: _, [] => .gt
  | (k, _) :: rest, (l, _) :: others => (compare k l).then (compareKeys rest others)

mutual

def orderSorted : Value → Value → Ordering
  | .number m, .number n => m.order n
  | .string s, .string t => compare s t
  | .array items, .array others => orderItems items others
  | .object members, .object others =>
    (compareKeys members others).then (orderMembers members others)
  | v, w => compare v.rank w.rank

def orderItems : List Value → List Value → Ordering
  | [], [] => .eq
  | [], _ :: _ => .lt
  | _ :: _, [] => .gt
  | v :: rest, w :: others => (orderSorted v w).then (orderItems rest others)

def orderMembers : List (String × Value) → List (String × Value) → Ordering
  | (_, v) :: rest, (_, w) :: others => (orderSorted v w).then (orderMembers rest others)
  | _, _ => .eq

end

def order (v w : Value) : Ordering := orderSorted v.sorted w.sorted

end Value

end DocumentSchema.Json
