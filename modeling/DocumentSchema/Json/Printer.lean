import DocumentSchema.Json.Value

namespace DocumentSchema.Json

def escape (c : Char) : List Char :=
  if c = '"' then ['\\', '"']
  else if c = '\\' then ['\\', '\\']
  else if c = '\x08' then ['\\', 'b']
  else if c = '\x0c' then ['\\', 'f']
  else if c = '\n' then ['\\', 'n']
  else if c = '\r' then ['\\', 'r']
  else if c = '\t' then ['\\', 't']
  else if c.toNat < 0x20 then
    ['\\', 'u', '0', '0', Nat.digitChar (c.toNat / 16), Nat.digitChar (c.toNat % 16)]
  else [c]

def quoted (s : List Char) : List Char := '"' :: s.flatMap escape ++ ['"']

namespace Value

def commaSeparated (texts : List (List Char)) : List Char := [','].intercalate texts

mutual

def text : Value → List Char
  | .null => ['n', 'u', 'l', 'l']
  | .bool true => ['t', 'r', 'u', 'e']
  | .bool false => ['f', 'a', 'l', 's', 'e']
  | .number n => n.text
  | .string s => quoted s.toList
  | .array items => '[' :: commaSeparated (itemTexts items) ++ [']']
  | .object members => '\x7b' :: commaSeparated (memberTexts members) ++ ['\x7d']

def itemTexts : List Value → List (List Char)
  | [] => []
  | v :: rest => text v :: itemTexts rest

def memberTexts : List (String × Value) → List (List Char)
  | [] => []
  | (key, v) :: rest => (quoted key.toList ++ ':' :: text v) :: memberTexts rest

end

instance : ToString Value := ⟨fun v ↦ String.ofList v.text⟩

def lineBreak (level : Nat) : List Char := '\n' :: List.replicate (2 * level) ' '

/-- A bracketed list with its entries on lines of their own; an empty one stays on its line. -/
def block (opening closing : Char) (level : Nat) (entries : List (List Char)) : List Char :=
  match entries with
  | [] => [opening, closing]
  | _ =>
    opening :: commaSeparated (entries.map (lineBreak (level + 1) ++ ·)) ++
      lineBreak level ++ [closing]

mutual

/-- The text with one entry to a line, as it continues at a level of indentation. -/
def indented (level : Nat) : Value → List Char
  | .array items => block '[' ']' level (indentedItems (level + 1) items)
  | .object members => block '\x7b' '\x7d' level (indentedMembers (level + 1) members)
  | v => text v

def indentedItems (level : Nat) : List Value → List (List Char)
  | [] => []
  | v :: rest => indented level v :: indentedItems level rest

def indentedMembers (level : Nat) : List (String × Value) → List (List Char)
  | [] => []
  | (key, v) :: rest =>
    (quoted key.toList ++ ':' :: ' ' :: indented level v) :: indentedMembers level rest

end

def pretty (v : Value) : String := String.ofList (v.indented 0)

end Value

end DocumentSchema.Json
