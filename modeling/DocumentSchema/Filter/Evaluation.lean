import DocumentSchema.Filter.Arithmetic
import DocumentSchema.Filter.Reader
import DocumentSchema.Json.Order
import DocumentSchema.Json.Printer
import DocumentSchema.Json.Reader
import DocumentSchema.Json.View

namespace DocumentSchema.Filter

open Json (Number Value)

/-- Values and failures, one after the other. A failure does not end what comes after it. -/
abbrev Outputs := List (Option Value)

def andThen (outputs : Outputs) (f : Value → Outputs) : Outputs :=
  outputs.flatMap fun
    | none => [none]
    | some v => f v

def collect (outputs : Outputs) : Option (List Value) := outputs.mapM id

def isTrue : Value → Bool
  | .null | .bool false => false
  | _ => true

def elementAt (items : List Value) (index : Int) : Value :=
  let index := if index < 0 then index + items.length else index
  if index < 0 then .null else (items[index.toNat]?).getD .null

/-- What is under a key or at an index. There has to be something to look into. -/
def look (v key : Value) : Option Value :=
  match v, key with
  | .object _, .string name => some (v.member name)
  | .array items, .number n => n.toSigned?.map (elementAt items)
  | _, _ => none

def contents : Value → Option (List Value)
  | .array items => some items
  | .object members => some (members.map (·.2))
  | _ => none

mutual

def descendants : Value → List Value
  | .array items => .array items :: descendantsOf items
  | .object members => .object members :: descendantsIn members
  | v => [v]

def descendantsOf : List Value → List Value
  | [] => []
  | v :: rest => descendants v ++ descendantsOf rest

def descendantsIn : List (String × Value) → List Value
  | [] => []
  | (_, v) :: rest => descendants v ++ descendantsIn rest

end

def hasKey (v key : Value) : Option Value :=
  match v, key with
  | .object _, .string name => some (.bool (v.hasMember name))
  | .array items, .number n => n.toNat?.map fun i ↦ .bool (i < items.length)
  | _, _ => none

def entry (member : String × Value) : Value :=
  .object [("key", .string member.1), ("value", member.2)]

def count (n : Nat) : Value := .number (.ofNat n)

def applyFunction : Function → Value → Option Value
  | .not, v => some (.bool !isTrue v)
  | .length, .null => some (count 0)
  | .length, .string s => some (count s.length)
  | .length, .array items => some (count items.length)
  | .length, .object members => some (count members.length)
  | .length, .number n => some (.number (if n.order (.ofNat 0) = .lt then negateNumber n else n))
  | .keys, .array items => some (.array ((List.range items.length).map count))
  | .keys, .object members =>
    some (.array (((members.map (·.1)).mergeSort fun a b ↦ a ≤ b).map .string))
  | .add, v => (contents v).bind fun vs ↦ vs.foldlM plus .null
  | .type, v => some (.string v.kind.name)
  | .last, .array items => some (elementAt items (-1))
  | .reverse, .array items => some (.array items.reverse)
  | .toText, .string s => some (.string s)
  | .toText, v => some (.string (toString v))
  | .toEntries, .object members => some (.array (members.map entry))
  | .any, v => (contents v).map fun vs ↦ .bool (vs.any isTrue)
  | .all, v => (contents v).map fun vs ↦ .bool (vs.all isTrue)
  | _, _ => none

def comparison? : Operator → Option (Ordering → Bool)
  | .equal => some (·.isEq)
  | .unequal => some (·.isNe)
  | .less => some (·.isLT)
  | .lessEqual => some (·.isLE)
  | .greater => some (·.isGT)
  | .greaterEqual => some (·.isGE)
  | _ => none

def combine (op : Operator) (left right : Value → Outputs) (v : Value) : Outputs :=
  let decided (decision : Bool) : Outputs :=
    andThen (left v) fun a ↦
      if isTrue a = decision then [some (.bool decision)]
      else andThen (right v) fun b ↦ [some (.bool (isTrue b))]
  let pairwise (f : Value → Value → Option Value) : Outputs :=
    andThen (left v) fun a ↦ andThen (right v) fun b ↦ [f a b]
  match op with
  | .pipe => andThen (left v) right
  | .comma => left v ++ right v
  | .alternative =>
    match (left v).filter (·.all isTrue) with
    | [] => right v
    | outputs => outputs
  | .or => decided true
  | .and => decided false
  | op =>
    match comparison? op with
    | some holds => pairwise fun a b ↦ some (.bool (holds (a.order b)))
    | none => pairwise (calculate op)

def withoutFailures (isWanted : Bool) (outputs : Outputs) : Outputs :=
  if isWanted then outputs.filter (·.isSome) else outputs

mutual

def Term.eval : Term → Value → Outputs
  | .identity, v => [some v]
  | .recurse, v => (descendants v).map some
  | .empty, _ => []
  | .error, _ => [none]
  | .literal value, _ => [some value]
  | .index term key isOptional, v =>
    andThen (term.eval v) fun inner ↦ andThen (key.eval v) fun k ↦
      withoutFailures isOptional [look inner k]
  | .each term isOptional, v =>
    andThen (term.eval v) fun inner ↦
      match contents inner with
      | some vs => vs.map some
      | none => withoutFailures isOptional [none]
  | .attempt term, v => withoutFailures true (term.eval v)
  | .negate term, v =>
    andThen (term.eval v) fun
      | .number n => [some (.number (negateNumber n))]
      | _ => [none]
  | .operation op left right, v => combine op left.eval right.eval v
  | .array items, v => [(collect (items.eval v)).map .array]
  | .object entries, v => (evalEntries entries v).map fun members ↦ members.map .object
  | .conditional condition yes no, v =>
    andThen (condition.eval v) fun c ↦ if isTrue c then yes.eval v else no.eval v
  | .first term, v => (term.eval v).take 1
  | .has key, v => andThen (key.eval v) fun k ↦ [hasKey v k]
  | .apply function, v => [applyFunction function v]

/-- The objects with a value each for the entries. Of equal keys, the last one counts. -/
def evalEntries : List (Term × Term) → Value → List (Option (List (String × Value)))
  | [], _ => [some []]
  | (key, value) :: rest, v =>
    let entries : List (Option (String × Value)) := (key.eval v).flatMap fun
      | some (.string name) => (value.eval v).map (·.map (name, ·))
      | _ => [none]
    entries.flatMap fun
      | none => [none]
      | some entry => (evalEntries rest v).map (·.map (merge [entry]))

end

/-- The values that a filter in a text gives, each read back from its JSON text. It gives none if the
text is no filter or there is a failure among the outputs. -/
def run (filter : String) (v : Value) : Option (List Value) := do
  let term ← Term.ofText? filter.toList
  let values ← collect (term.eval v)
  values.mapM fun value ↦ (Json.read (toString value).toUTF8.toList).toOption

end DocumentSchema.Filter
