import DocumentSchema.CommandLine
import DocumentSchema.Proofs.CommandLine.Loading

namespace DocumentSchema.CommandLine

open Json (Value)
open Validation (Finding Findings)

/-- What validation up to the first finding says about a payload. -/
def Payload.checked (r : Root) : Payload → Except Finding Value
  | .text t => r.validateText t.toUTF8.toList
  | .value v => r.validate v

/-- What validation to the end says about a payload. -/
def Payload.checkedAll (r : Root) : Payload → Except Findings Value
  | .text t => r.validateTextAll t.toUTF8.toList
  | .value v => r.validateAll v

theorem checked_text (r : Root) (text : String) :
    (Payload.text text).checked r = r.validateText (text.toList.flatMap String.utf8EncodeChar) := by
  rw [← Text.Utf8.toList_toUTF8]
  rfl

theorem checkedAll_text (r : Root) (text : String) :
    (Payload.text text).checkedAll r = r.validateTextAll (text.toList.flatMap String.utf8EncodeChar) := by
  rw [← Text.Utf8.toList_toUTF8]
  rfl

def result (r : Root) (all : Bool) (p : Payload) : Except Findings Value :=
  if all then p.checkedAll r else (p.checked r).mapError .single

theorem verdict_eq (r : Root) (all : Bool) (d : Document) :
    verdict r all d = ⟨d.label, result r all d.payload⟩ := by
  obtain ⟨label, payload⟩ := d
  cases payload <;> cases all <;> rfl

/-- What a run comes to that has reached verdicts. -/
def outcomeOf (w : Workspace) (print : Bool) (verdicts : List Verdict) : Outcome where
  standardOutput := if print then printed (acceptedLines verdicts) else ""
  standardError := printed (verdictReport verdicts)
  success := verdicts.all (·.passed)
  workspace := w

section Running

variable [PatternEngine]

/-- The blueprint does not compile, or it does not have the root. -/
inductive NotReady (w : Workspace) (blueprint : BlueprintOptions) (root : String) : Failure → Prop
  | notCompiled {error : Blueprint.CompileError}
      (compiles : Blueprint.compileFile blueprint.openByDefault w blueprint.path = .error error) :
      NotReady w blueprint root (.notCompiled error)
  | noRoot {schema : Schema} {unknown : UnknownRoot}
      (compiled : Blueprint.compileFile blueprint.openByDefault w blueprint.path = .ok schema)
      (isUnknown : schema.root root = .error unknown) : NotReady w blueprint root (.noRoot unknown)

theorem ready_or_notReady (w : Workspace) (blueprint : BlueprintOptions) (root : String) :
    (∃ failure, NotReady w blueprint root failure) ∨
      ∃ schema r, Blueprint.compileFile blueprint.openByDefault w blueprint.path = .ok schema ∧
        schema.root root = .ok r := by
  cases compiled : Blueprint.compileFile blueprint.openByDefault w blueprint.path with
  | error e => exact .inl ⟨_, .notCompiled compiled⟩
  | ok schema =>
    cases rooted : schema.root root with
    | error unknown => exact .inl ⟨_, .noRoot compiled rooted⟩
    | ok r => exact .inr ⟨schema, r, rfl, rooted⟩

variable [FilterEngine] {s : Surroundings} {blueprint : BlueprintOptions} {root : String}

theorem run_validate_of_root {schema : Schema} {r : Root}
    (compiled : Blueprint.compileFile blueprint.openByDefault s.workspace blueprint.path = .ok schema)
    (rooted : schema.root root = .ok r) (input : InputOptions) (all print : Bool) :
    run s (.validate blueprint root input all print) =
      (documents s input).map fun ds ↦ outcomeOf s.workspace print (ds.map (verdict r all)) := by
  have hcompiled : compileOption s.workspace blueprint = .ok schema := by
    rw [compileOption, compiled]
    rfl
  rw [run, runValidate, hcompiled]
  dsimp only [bind, Except.bind]
  rw [rooted]
  cases documents s input <;> rfl

theorem run_validate_of_notReady {failure : Failure}
    (h : NotReady s.workspace blueprint root failure) (input : InputOptions) (all print : Bool) :
    run s (.validate blueprint root input all print) = .error failure := by
  rw [run, runValidate, compileOption]
  cases h with
  | notCompiled compiles =>
    rw [compiles]
    rfl
  | noRoot compiled isUnknown =>
    rw [compiled]
    dsimp only [bind, Except.bind, Except.mapError]
    rw [isUnknown]

end Running

section Counts

variable {verdicts : List Verdict}

def passedCount (verdicts : List Verdict) : Nat := verdicts.countP (·.passed)

theorem passedCount_add_failedCount (verdicts : List Verdict) :
    passedCount verdicts + failedCount verdicts = verdicts.length := by
  rw [passedCount, failedCount, List.length_eq_countP_add_countP (·.passed)]
  simp

theorem summaryLine_eq (verdicts : List Verdict) :
    summaryLine verdicts = s!"{passedCount verdicts} passed, {failedCount verdicts} failed" := by
  have hpassed : verdicts.length - failedCount verdicts = passedCount verdicts := by
    rw [← passedCount_add_failedCount, Nat.add_sub_cancel]
  rw [summaryLine, hpassed]

theorem success_outcomeOf {w : Workspace} {print : Bool} :
    (outcomeOf w print verdicts).success = true ↔ failedCount verdicts = 0 := by
  simp [outcomeOf, failedCount]

end Counts

section Switch

/-- A file with a type of one field, which has a default. -/
def switchText : String := "root Switch \x7bon: boolean = true\x7d"

def switchWorkspace : Workspace where
  top := .directory [("switch.jbp", .file (switchText.toList.map fun c ↦ UInt8.ofNat c.toNat))]
  current := []

def switchSchema : Schema where
  origin := "switch.jbp"
  types := [⟨"Switch", [⟨"on", .scalar ⟨.boolean, .none⟩, false, some (.bool true)⟩], true, false⟩]
  roots := [("Switch", 0)]

def switchRoot : Root := ⟨switchSchema, "Switch", 0⟩

def standardLines : InputOptions := ⟨true, none, none, ["-"]⟩

theorem root_switchSchema : switchSchema.root "Switch" = .ok switchRoot := rfl

theorem hasContents_switchWorkspace (text : String) :
    HasContents ⟨switchWorkspace, text.toUTF8.toList⟩ ["-"] [⟨"-", text⟩] :=
  .cons (readInput_standardInput switchWorkspace text) .nil

variable [PatternEngine]

theorem compileFile_switchWorkspace :
    Blueprint.compileFile false switchWorkspace "switch.jbp" = .ok switchSchema := by
  have hread : switchWorkspace.readText "switch.jbp" = .ok switchText := by decide +kernel
  rw [Blueprint.compileFile, Blueprint.Source.ofFile, hread]
  rfl

theorem run_switchWorkspace [FilterEngine] (text : String) (o : InputOptions) (all print : Bool)
    (isStandardInput : o.inputs = ["-"]) (noPointer : o.pointer = none) (noFilter : o.filter = none) :
    run ⟨switchWorkspace, text.toUTF8.toList⟩ (.validate ⟨"switch.jbp", false⟩ "Switch" o all print) =
      .ok (outcomeOf switchWorkspace print ((units o ⟨"-", text⟩).map fun unit ↦
        ⟨unit.label, result switchRoot all (.text unit.text)⟩)) := by
  have hdocuments : documents ⟨switchWorkspace, text.toUTF8.toList⟩ o =
      .ok ((units o ⟨"-", text⟩).map fun unit ↦ ⟨unit.label, .text unit.text⟩) := by
    rw [documents, isStandardInput]
    refine (documentsOfPaths_eq (hasContents_switchWorkspace text)).trans ?_
    rw [documentsOfUnits_unread noPointer noFilter, List.flatMap_singleton]
  rw [run_validate_of_root compileFile_switchWorkspace root_switchSchema, hdocuments]
  simp only [Except.map, List.map_map, Function.comp_def, verdict_eq]

end Switch

end DocumentSchema.CommandLine
