import DocumentSchema.Glob.Pattern
import DocumentSchema.Workspace

namespace DocumentSchema.Glob

/-- A path, and what is there. -/
structure Spot where
  path : String
  node : Node

def isCurrent (path : String) : Bool :=
  let (first, others) := Text.splitAt '/' path.toList
  first = ['.'] && others.all fun piece ↦ piece.isEmpty || piece = ['.']

def join (path name : String) : String :=
  if path.endsWith "/" then path ++ name else path ++ "/" ++ name

def below (path name : String) : String := if isCurrent path then name else join path name

def spotAt (w : Workspace) (path : String) : Spot :=
  match w.find path with
  | .ok node => ⟨path, node⟩
  | .error _ => ⟨path, .file []⟩

def exists? (w : Workspace) (path : String) : Bool := (w.find path).isOk

def isSpecial (name : String) : Bool := name = "." || name = ".."

/-- The directories that are their own or their parents' entries, as far as a pattern with a dot at
its front asks for them. -/
def specials (p : Pattern) : List String :=
  if p.head? = some (.char '.') then
    [".", ".."].filter fun name ↦ p.accepts name.toList
  else []

def sortedEntries (node : Node) : List { e : String × Node // e ∈ node.entries } :=
  node.entries.attach.mergeSort fun a b ↦ a.val.1 ≤ b.val.1

theorem sizeOf_entry_lt {node : Node} {e : String × Node} (h : e ∈ node.entries) :
    sizeOf e.2 < sizeOf node := by
  cases node with
  | file _ => simp [Node.entries] at h
  | directory entries =>
    have := List.sizeOf_lt_of_mem (show e ∈ entries from h)
    cases e
    simp only [Node.directory.sizeOf_spec, Prod.mk.sizeOf_spec] at this ⊢
    omega

def afterRecursive (components : List Pattern) : List Pattern :=
  components.dropWhile Pattern.isRecursive

theorem length_afterRecursive_le (components : List Pattern) :
    (afterRecursive components).length ≤ components.length :=
  (List.dropWhile_suffix _).length_le

mutual

def search (w : Workspace) (spot : Spot) : List Pattern → List String
  | [] => []
  | p :: rest =>
    match p.literal? with
    | some name =>
      let path := below spot.path name
      let isThere := if isSpecial name then spot.node.isDirectory else exists? w path
      if !isThere then [] else arrive w path rest
    | none =>
      let special := (specials p).reverse.flatMap fun name ↦ arrive w (join spot.path name) rest
      special ++ (sortedEntries spot.node).flatMap fun ⟨(name, node), h⟩ ↦
        have := sizeOf_entry_lt h
        visit w ⟨below spot.path name, node⟩ name (p :: rest)
termination_by components => (components.length, sizeOf spot.node, 0)

def arrive (w : Workspace) (path : String) : List Pattern → List String
  | [] => [path]
  | p :: rest => search w (spotAt w path) (p :: rest)
termination_by components => (components.length, sizeOf (spotAt w path).node, 1)

/-- The paths from an entry of a directory on, whose name is yet to be matched. The component for any
directories matches an entry in passing: what follows it may match the entry itself as well as what
is inside. -/
def visit (w : Workspace) (spot : Spot) (name : String) : List Pattern → List String
  | [] => []
  | p :: rest =>
    if p.isRecursive then
      let inside := if spot.node.isDirectory then search w spot (p :: afterRecursive rest) else []
      match h : afterRecursive rest with
      | [] => if spot.node.isDirectory then spot.path :: inside else []
      | q :: others =>
        have := h ▸ length_afterRecursive_le rest
        (if q.accepts name.toList then enter w spot others else []) ++ inside
    else if p.accepts name.toList then enter w spot rest
    else []
termination_by components => (components.length, sizeOf spot.node, 1)
decreasing_by
  · have := length_afterRecursive_le rest
    simp [Prod.lex_def]
    omega
  · simp only [Prod.lex_def, List.length_cons] at *
    omega
  · simp [Prod.lex_def]

def enter (w : Workspace) (spot : Spot) : List Pattern → List String
  | [] => [spot.path]
  | p :: rest => search w spot (p :: rest)
termination_by components => (components.length, sizeOf spot.node, 1)

end

def paths (w : Workspace) (pattern : String) : Except Malformed (List String) := do
  let _ ← Pattern.ofText pattern.toList
  let absolute := pattern.startsWith "/"
  let (first, others) := Text.splitAt '/' (pattern.toList.drop (if absolute then 1 else 0))
  let pieces := first :: others
  let closed := !others.isEmpty && pieces.getLast?.any (·.isEmpty)
  let components ← (if closed then pieces.dropLast else pieces).mapM Pattern.ofText
  let found := search w (spotAt w (if absolute then "/" else ".")) components
  return if closed then found.filter w.isDirectory else found

end DocumentSchema.Glob
