import DocumentSchema.CommandLine
import DocumentSchema.CommandLine.Arguments

namespace DocumentSchema.CommandLine

def helpText : String := "\n".intercalate [
  "compile JSON blueprints and validate documents against them",
  "",
  "Usage: jbp check -b FILE [--open]",
  "       jbp validate -b FILE -r ROOT -i INPUT... [--ndjson] [--json-pointer POINTER]",
  "                    [--jq-expr FILTER] [--all] [--print] [--open]",
  "       jbp schema -b FILE -r ROOT [-o FILE] [--open]"]

/-- The tree under a directory down to a depth, its files without their contents. -/
def treeUnder (path : String) : (depth : Nat) → IO Node
  | 0 => return .empty
  | depth + 1 => do
    let directory := (← IO.currentDir) / path
    if !(← directory.isDir) then
      return if ← directory.pathExists then .file [] else .empty
    let mut entries := []
    for e in ← directory.readDir do
      let below := (directory / e.fileName).toString
      let node ← if ← (directory / e.fileName).isDir then treeUnder below depth else pure (.file [])
      entries := (e.fileName, node) :: entries
    return .directory entries

def placeOf (current : List String) (path : String) : List String :=
  let route := Route.ofPath path
  route.names.foldl (fun place name ↦
    if name = "." then place else if name = ".." then place.dropLast else place ++ [name])
    (if route.absolute then [] else current)

/-- Puts what is under a path into a workspace, with the directories on the way to it. -/
def load (w : Workspace) (path : String) : IO Workspace := do
  let names := (Route.ofPath path).names
  let mut w := w
  for n in List.range names.length do
    let start := (if path.startsWith "/" then "/" else "") ++ "/".intercalate (names.take (n + 1))
    let place := placeOf w.current start
    let there := (← IO.currentDir) / start
    if ← there.isDir then
      if (w.top.find? place).isNone then w := { w with top := .put .empty w.top place }
    else if ← there.pathExists then
      let content := (← IO.FS.readBinFile there).toList
      w := { w with top := .put (.file content) w.top place }
  return w

def loadPattern (w : Workspace) (pattern : String) : IO Workspace := do
  let names := (pattern.splitOn "/").takeWhile (!hasWildcards ·)
  let start := "/".intercalate names
  let depth := if pattern.contains "**" then 64 else (pattern.splitOn "/").length
  let tree ← treeUnder (if start.isEmpty && !pattern.startsWith "/" then "." else start ++ "/") depth
  let w ← load w start
  let searched : Workspace := { w with top := .put tree w.top (placeOf w.current start) }
  match Glob.paths searched pattern with
  | .ok paths => paths.foldlM load w
  | .error _ => return w

def workspaceFor (command : Command) : IO Workspace := do
  let current := (Route.ofPath (← IO.currentDir).toString).names
  let start : Workspace := ⟨.put .empty .empty current, current⟩
  match command with
  | .check blueprint => load start blueprint.path
  | .validate blueprint _ input _ _ =>
    let w ← load start blueprint.path
    input.inputs.foldlM (fun w i ↦ if hasWildcards i then loadPattern w i else load w i) w
  | .schema blueprint _ out =>
    let w ← load start blueprint.path
    match out with
    | some path => load w path
    | none => return w

def save (before after : Workspace) : IO Unit := do
  for (path, content) in before.changes after do
    let file := (← IO.currentDir) / ("/" ++ path)
    if let some above := file.parent then IO.FS.createDirAll above
    IO.FS.writeBinFile file ⟨content.toArray⟩

def execute (command : Command) : IO UInt32 := do
  let readsInput := match command with
    | .validate _ _ input _ _ => input.inputs.contains "-"
    | _ => false
  let standardInput ← if readsInput then (← IO.getStdin).readBinToEnd else pure .empty
  let before ← workspaceFor command
  match run ⟨before, standardInput.toList⟩ command with
  | .error failure => do
    IO.eprintln s!"Error: {failure.message}"
    return 1
  | .ok outcome => do
    save before outcome.workspace
    IO.eprint outcome.standardError
    IO.print outcome.standardOutput
    return if outcome.success then 0 else 1

end DocumentSchema.CommandLine

open DocumentSchema.CommandLine in
def main (arguments : List String) : IO UInt32 := do
  match Command.ofArguments arguments with
  | .ok command => execute command
  | .error .version => do
    IO.println "jbp 0.1.0"
    return 0
  | .error fault => do
    if fault.exitCode = 0 then IO.println helpText else IO.eprintln helpText
    return fault.exitCode.toUInt32
