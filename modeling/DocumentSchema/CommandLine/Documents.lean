import DocumentSchema.CommandLine.Command
import DocumentSchema.CommandLine.Failure
import DocumentSchema.Filter
import DocumentSchema.Glob.Search
import DocumentSchema.Json.Pointer
import DocumentSchema.Root
import DocumentSchema.Text.Blank

namespace DocumentSchema.CommandLine

open Json (Value)

/-- The files of a program and its standard input. -/
structure Surroundings where
  workspace : Workspace
  standardInput : List UInt8

def hasWildcards (input : String) : Bool := input.toList.any ['*', '?', '[', '\x7b'].contains

def pathsOf (w : Workspace) (standardInputTaken : Bool) : List String → Except Failure (List String)
  | [] => .ok []
  | input :: rest => do
    if input = "-" then
      if standardInputTaken then .error .standardInputTwice
      return input :: (← pathsOf w true rest)
    else if hasWildcards input then
      let found ← (Glob.paths w input).mapError .badPattern
      if found.isEmpty then .error (.noMatch input)
      return found ++ (← pathsOf w standardInputTaken rest)
    else return input :: (← pathsOf w standardInputTaken rest)

/-- A text under a label that tells where it is from. -/
structure Labelled where
  label : String
  text : String
  deriving DecidableEq

def readInput (s : Surroundings) (path : String) : Except Failure Labelled :=
  if path = "-" then
    match Text.Utf8.text? s.standardInput with
    | some text => .ok ⟨path, text⟩
    | none => .error .unreadableStandardInput
  else
    match s.workspace.readText path with
    | .ok text => .ok ⟨path, text⟩
    | .error _ => .error (.unreadable path)

def unitsByLine (input : Labelled) : List Labelled :=
  ((Text.lines input.text.toList).zipIdx 1).filterMap fun (line, number) ↦
    if line.all Text.isBlank then none
    else some ⟨s!"{input.label}:{number}", String.ofList line⟩

def units (o : InputOptions) (input : Labelled) : List Labelled :=
  if o.byLine then unitsByLine input else [input]

inductive Payload where
  | text (text : String)
  | value (value : Value)

structure Document where
  label : String
  payload : Payload

def pointed (o : InputOptions) (label : String) (v : Value) : Except Failure Value :=
  match o.pointer with
  | none => .ok v
  | some pointer =>
    match Json.Pointer.follow pointer v with
    | some part => .ok part
    | none => .error (.pointerMissed pointer label)

def fanOut (label : String) (outputs : List Value) : List Document :=
  match outputs with
  | [v] => [⟨label, .value v⟩]
  | _ => outputs.zipIdx.map fun (v, i) ↦ ⟨s!"{label}#{i}", .value v⟩

variable [FilterEngine]

def filtered (o : InputOptions) (label : String) (v : Value) : Except Failure (List Document) :=
  match o.filter with
  | none => .ok [⟨label, .value v⟩]
  | some filter =>
    match FilterEngine.outputs filter v with
    | some outputs => .ok (fanOut label outputs)
    | none => .error (.filterFailed label)

/-- The documents of a unit. A text that is no JSON is left to validation to report. -/
def documentsOf (o : InputOptions) (unit : Labelled) : Except Failure (List Document) :=
  if o.pointer.isNone && o.filter.isNone then .ok [⟨unit.label, .text unit.text⟩]
  else match Json.read unit.text.toUTF8.toList with
    | .error _ => .ok [⟨unit.label, .text unit.text⟩]
    | .ok v => (pointed o unit.label v).bind (filtered o unit.label)

def documentsOfUnits (o : InputOptions) (units : List Labelled) : Except Failure (List Document) :=
  List.flatten <$> units.mapM (documentsOf o)

def documentsOfPaths (s : Surroundings) (o : InputOptions) :
    List String → Except Failure (List Document)
  | [] => .ok []
  | path :: rest => do
    let input ← readInput s path
    let documents ← documentsOfUnits o (units o input)
    let s := if path = "-" then { s with standardInput := [] } else s
    return documents ++ (← documentsOfPaths s o rest)

def documents (s : Surroundings) (o : InputOptions) : Except Failure (List Document) :=
  (pathsOf s.workspace false o.inputs).bind (documentsOfPaths s o)

end DocumentSchema.CommandLine
