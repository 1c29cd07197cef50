namespace DocumentSchema

inductive Node where
  | file (content : List UInt8)
  | directory (entries : List (String × Node))

/-- Gives an entry of a directory a node, at its old place if there is one. -/
def setEntry : List (String × Node) → String → Node → List (String × Node)
  | [], name, node => [(name, node)]
  | (n, old) :: rest, name, node =>
    if n = name then (name, node) :: rest else (n, old) :: setEntry rest name node

namespace Node

def empty : Node := .directory []

def isDirectory : Node → Bool
  | directory _ => true
  | file _ => false

def entries : Node → List (String × Node)
  | directory entries => entries
  | file _ => []

def find? : Node → List String → Option Node
  | node, [] => some node
  | node, name :: rest => (node.entries.lookup name).bind (find? · rest)

/-- Puts a node at a place. What is missing on the way to it becomes a directory. -/
def put (new : Node) : Node → List String → Node
  | _, [] => new
  | node, name :: rest =>
    let below := (node.entries.lookup name).getD .empty
    .directory (setEntry node.entries name (put new below rest))

def remove : Node → List String → Node
  | node, [] => node
  | node, [name] => .directory (node.entries.filter (·.1 ≠ name))
  | node, name :: rest =>
    match node.entries.lookup name with
    | some below => .directory (setEntry node.entries name (remove below rest))
    | none => node

mutual

def files : Node → List (List String × List UInt8)
  | file content => [([], content)]
  | directory entries => filesIn entries

def filesIn : List (String × Node) → List (List String × List UInt8)
  | [] => []
  | (name, node) :: rest =>
    (node.files.map fun (place, content) ↦ (name :: place, content)) ++ filesIn rest

end

end Node

end DocumentSchema
