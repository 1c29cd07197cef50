import DocumentSchema.Blueprint.File
import DocumentSchema.CommandLine.Report
import DocumentSchema.Filter.Engine
import DocumentSchema.Pattern.Engine
import DocumentSchema.Schema.JsonSchema

namespace DocumentSchema.CommandLine

structure Outcome where
  standardOutput : String
  standardError : String
  success : Bool
  workspace : Workspace

/-- The parent of a path, as far as the path names one. -/
def parentOf (path : String) : String :=
  let route := Route.ofPath path
  let names := if route.names.getLast? = some "." then route.names.dropLast else route.names
  (if route.absolute then "/" else "") ++ "/".intercalate names.dropLast

variable [PatternEngine]

def compileOption (w : Workspace) (o : BlueprintOptions) : Except Failure Schema :=
  (Blueprint.compileFile o.openByDefault w o.path).mapError .notCompiled

/-- Writes a file and makes the directories that it is in. -/
def writeOut (w : Workspace) (path : String) (text : String) : Except Failure Workspace := do
  let w ← (w.makeDirectories (parentOf path)).mapError .noDirectory
  (w.write path text.toUTF8.toList).mapError fun _ ↦ .unwritable path

def runCheck (s : Surroundings) (blueprint : BlueprintOptions) : Except Failure Outcome := do
  let schema ← compileOption s.workspace blueprint
  return ⟨printed (schemaLines schema), "", true, s.workspace⟩

variable [FilterEngine]

def runValidate (s : Surroundings) (blueprint : BlueprintOptions) (root : String)
    (input : InputOptions) (all print : Bool) : Except Failure Outcome := do
  let schema ← compileOption s.workspace blueprint
  let r ← (schema.root root).mapError .noRoot
  let verdicts := (← documents s input).map (verdict r all)
  let accepted := if print then printed (acceptedLines verdicts) else ""
  return ⟨accepted, printed (verdictReport verdicts), verdicts.all (·.passed), s.workspace⟩

def runSchema (s : Surroundings) (blueprint : BlueprintOptions) (root : String)
    (out : Option String) : Except Failure Outcome := do
  let schema ← compileOption s.workspace blueprint
  let text := (← (schema.jsonSchema root).mapError .noRoot).pretty
  match out with
  | none => return ⟨printed [text], "", true, s.workspace⟩
  | some path => return ⟨"", "", true, ← writeOut s.workspace path text⟩

def run (s : Surroundings) : Command → Except Failure Outcome
  | .check blueprint => runCheck s blueprint
  | .validate blueprint root input all print => runValidate s blueprint root input all print
  | .schema blueprint root out => runSchema s blueprint root out

end DocumentSchema.CommandLine
