import DocumentSchema.Pattern.CharacterSet

namespace DocumentSchema.Pattern

/-- A condition on a place in a text. -/
inductive Condition where
  | textStart
  | textEnd
  | lineStart
  | lineEnd
  | anyLineStart
  | anyLineEnd
  | wordBoundary (word : CharacterSet)
  | notWordBoundary (word : CharacterSet)
  | wordStart (word : CharacterSet)
  | wordEnd (word : CharacterSet)
  | noWordBefore (word : CharacterSet)
  | noWordAfter (word : CharacterSet)

def Condition.holds (condition : Condition) (before after : Option Char) : Bool :=
  let isWord (word : CharacterSet) (c : Option Char) := c.any fun c ↦ word.contains c.toNat
  match condition with
  | textStart => before.isNone
  | textEnd => after.isNone
  | lineStart => before.isNone || before = some '\n'
  | lineEnd => after.isNone || after = some '\n'
  | anyLineStart =>
    before.isNone || before = some '\n' || (before = some '\r' && after ≠ some '\n')
  | anyLineEnd => after.isNone || after = some '\r' || (after = some '\n' && before ≠ some '\r')
  | wordBoundary word => isWord word before ≠ isWord word after
  | notWordBoundary word => isWord word before = isWord word after
  | wordStart word => !isWord word before && isWord word after
  | wordEnd word => isWord word before && !isWord word after
  | noWordBefore word => !isWord word before
  | noWordAfter word => !isWord word after

inductive Expression where
  | empty
  | character (set : CharacterSet)
  | condition (condition : Condition)
  | sequence (first second : Expression)
  | either (first second : Expression)
  | repeated (body : Expression) (least : Nat) (most : Option Nat)

def places (count : Nat) (holds : Nat → Bool) : Nat :=
  (List.range count).foldl (fun set i ↦ if holds i then set ||| 1 <<< i else set) 0

/-- Applies a step a number of times, or until no place is left or the places no longer change. -/
def repeatStep (step : Nat → Nat) : (count : Nat) → (set : Nat) → Nat
  | 0, set => set
  | count + 1, set =>
    let next := step set
    if next = set || next = 0 then next else repeatStep step count next

def reachStep (step : Nat → Nat) : (count : Nat) → (set : Nat) → Nat
  | 0, set => set
  | count + 1, set =>
    let next := set ||| step set
    if next = set then set else reachStep step count next

def Expression.ends (text : Array Char) : Expression → Nat → Nat
  | empty, starts => starts
  | character set, starts =>
    (starts &&& places text.size fun i ↦ text[i]?.any (set.contains ·.toNat)) <<< 1
  | condition c, starts =>
    starts &&& places (text.size + 1) fun i ↦
      c.holds (if i = 0 then none else text[i - 1]?) text[i]?
  | sequence first second, starts => second.ends text (first.ends text starts)
  | either first second, starts => first.ends text starts ||| second.ends text starts
  | repeated body least most, starts =>
    let reached := repeatStep (body.ends text) least starts
    reachStep (body.ends text) ((most.map (· - least)).getD (text.size + 1)) reached

def Expression.isFoundIn (e : Expression) (text : Array Char) : Bool :=
  e.ends text (places (text.size + 1) fun _ ↦ true) ≠ 0

def Expression.weight : Expression → Nat
  | empty | condition _ => 32
  | character set => if set.weight ≤ 1 then 32 else 60 * set.weight
  | sequence first second => first.weight + second.weight
  | either first second => first.weight + second.weight + 32
  | repeated body least none => body.weight * max least 1 + 32
  | repeated body least (some most) => body.weight * most + 32 * (most - least)

end DocumentSchema.Pattern
