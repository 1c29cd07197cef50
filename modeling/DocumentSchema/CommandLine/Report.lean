import DocumentSchema.CommandLine.Documents
import DocumentSchema.Schema.Outline

namespace DocumentSchema.CommandLine

open Json (Value)
open Validation (Finding Findings)

/-- What became of a document. -/
structure Verdict where
  label : String
  result : Except Findings Value

namespace Verdict

def passed (v : Verdict) : Bool := v.result.isOk

end Verdict

/-- Validates a document, up to the first finding or to the end. -/
def verdict (r : Root) (all : Bool) (d : Document) : Verdict :=
  let result := match d.payload, all with
    | .text text, false => (r.validateText text.toUTF8.toList).mapError .single
    | .value v, false => (r.validate v).mapError .single
    | .text text, true => r.validateTextAll text.toUTF8.toList
    | .value v, true => r.validateAll v
  ⟨d.label, result⟩

def findingLine (f : Finding) : String :=
  s!"    {f.path.display} {f.violation.message} [{f.violation.className}]"

def verdictLines (v : Verdict) : List String :=
  match v.result with
  | .ok _ => [s!"ok {v.label}"]
  | .error findings => s!"FAIL {v.label}" :: findings.toList.map findingLine

def failedCount (verdicts : List Verdict) : Nat := verdicts.countP (!·.passed)

def summaryLine (verdicts : List Verdict) : String :=
  let failed := failedCount verdicts
  s!"{verdicts.length - failed} passed, {failed} failed"

def verdictReport (verdicts : List Verdict) : List String :=
  verdicts.flatMap verdictLines ++ [summaryLine verdicts]

def acceptedLines (verdicts : List Verdict) : List String :=
  verdicts.filterMap fun v ↦ (v.result.toOption).map toString

def fieldLine (s : Schema) (f : FieldDefinition) : String :=
  let marker := if f.required then "" else "optional "
  let default := match f.default with
    | some v => s!" = {v}"
    | none => ""
  let type := String.ofList (s.typeText f.type)
  s!"    {marker}{f.name}: {type}{default}"

def typeLines (s : Schema) (d : TypeDefinition) : List String :=
  let keyword := if s.isRoot d.name then "root" else "type"
  let openness := if d.closed then "closed" else "open"
  s!"  {keyword} {d.name} ({openness})" :: d.fields.map (fieldLine s)

def schemaLines (s : Schema) : List String :=
  let declared := s.types.filter (!·.anonymous)
  let count := declared.length
  let roots := if s.rootNames.isEmpty then "none" else ", ".intercalate s.rootNames
  s!"ok {s.origin} ({count} types, roots: {roots})" :: declared.flatMap (typeLines s)

def printed (lines : List String) : String := String.join (lines.map (· ++ "\n"))

end DocumentSchema.CommandLine
