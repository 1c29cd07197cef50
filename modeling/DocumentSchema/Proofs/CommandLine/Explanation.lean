import DocumentSchema.Proofs.CommandLine.Loading
import DocumentSchema.Proofs.CommandLine.Verdicts
import DocumentSchema.Proofs.Validation.Modes

namespace DocumentSchema.CommandLine

open Json (Value)
open Root (Agree)
open Validation (Finding Findings)

/-- What is said about a document: that it passed and in which normal form, or that it failed and why,
in one line or more. -/
inductive Explanation where
  | passed (label : String) (normal : Value)
  | failed (label : String) (first : String) (others : List String)

namespace Explanation

def isFailed : Explanation → Bool
  | passed _ _ => false
  | failed _ _ _ => true

def accepted? : Explanation → Option String
  | passed _ n => some (toString n)
  | failed _ _ _ => none

def brief : Explanation → List String
  | passed label _ => [s!"ok {label}"]
  | failed label first _ => [s!"FAIL {label}", first]

def full : Explanation → List String
  | passed label _ => [s!"ok {label}"]
  | failed label first others => s!"FAIL {label}" :: first :: others

end Explanation

/-- What is said about a document, by what validation says about its payload up to the first finding
and to the end. -/
inductive Explains (r : Root) (d : Document) : Explanation → Prop
  | passed {n : Value} (checked : d.payload.checked r = .ok n)
      (checkedAll : d.payload.checkedAll r = .ok n) : Explains r d (.passed d.label n)
  | failed {first : Finding} {others : List Finding} {all : Findings}
      (checked : d.payload.checked r = .error first) (checkedAll : d.payload.checkedAll r = .error all)
      (areAll : all.toList = first :: others) :
      Explains r d (.failed d.label (findingLine first) (others.map findingLine))

section Verdicts

variable {r : Root} {d : Document} {e : Explanation}

theorem agree_checked (r : Root) (p : Payload) : Agree (p.checked r) (p.checkedAll r) := by
  cases p with
  | text text => exact r.agree_validateText text.toUTF8.toList
  | value v => exact r.agree_validate v

theorem exists_explains (r : Root) (d : Document) : ∃ e, Explains r d e := by
  obtain ⟨hok, herror⟩ := agree_checked r d.payload
  cases hchecked : d.payload.checked r with
  | ok n => exact ⟨_, .passed hchecked ((hok n).1 hchecked)⟩
  | error f =>
    obtain ⟨found, hfound, hhead⟩ := (herror f).1 hchecked
    obtain ⟨others, hothers⟩ := List.head?_eq_some_iff.1 hhead
    exact ⟨_, .failed hchecked hfound hothers⟩

theorem Explains.isFailed_iff (h : Explains r d e) :
    e.isFailed = true ↔ ∃ f, d.payload.checked r = .error f := by
  cases h with
  | passed checked => simp [Explanation.isFailed, checked]
  | failed checked => simp [Explanation.isFailed, checked]

theorem Explains.brief_lines (h : Explains r d e) : verdictLines (verdict r false d) = e.brief := by
  rw [verdict_eq]
  cases h with
  | passed checked => simp [verdictLines, result, checked, Except.mapError, Explanation.brief]
  | failed checked =>
    simp [verdictLines, result, checked, Except.mapError, Explanation.brief, Findings.single]

theorem Explains.full_lines (h : Explains r d e) : verdictLines (verdict r true d) = e.full := by
  rw [verdict_eq]
  cases h with
  | passed _ checkedAll => simp [verdictLines, result, checkedAll, Explanation.full]
  | failed _ checkedAll areAll => simp [verdictLines, result, checkedAll, areAll, Explanation.full]

theorem Explains.passed_eq (h : Explains r d e) (all : Bool) :
    (verdict r all d).passed = !e.isFailed := by
  rw [verdict_eq]
  cases h with
  | passed checked checkedAll | failed checked checkedAll =>
    cases all
    all_goals
      simp only [result, checked, checkedAll]
      rfl

theorem Explains.accepted?_eq (h : Explains r d e) (all : Bool) :
    (verdict r all d).result.toOption.map toString = e.accepted? := by
  rw [verdict_eq]
  cases h with
  | passed checked checkedAll | failed checked checkedAll =>
    cases all
    all_goals
      simp only [result, checked, checkedAll]
      rfl

end Verdicts

section Runs

variable {r : Root} {ds : List Document} {es : List Explanation}

theorem exists_forall₂_explains (r : Root) (ds : List Document) :
    ∃ es, List.Forall₂ (Explains r) ds es := by
  choose explanation hexplanation using exists_explains r
  exact ⟨ds.map explanation, List.forall₂_map_right_iff.2 (List.forall₂_same.2 fun d _ ↦ hexplanation d)⟩

theorem map_eq_of_explains {α : Type} {f : Document → α} {g : Explanation → α}
    (same : ∀ {d e}, Explains r d e → f d = g e) (h : List.Forall₂ (Explains r) ds es) :
    ds.map f = es.map g := by
  induction h with
  | nil => rfl
  | cons first _ ih => rw [List.map_cons, List.map_cons, same first, ih]

theorem brief_report (h : List.Forall₂ (Explains r) ds es) :
    (ds.map (verdict r false)).flatMap verdictLines = es.flatMap Explanation.brief := by
  rw [List.flatMap_map, List.flatMap_def, map_eq_of_explains (·.brief_lines) h, List.flatMap_def]

theorem full_report (h : List.Forall₂ (Explains r) ds es) :
    (ds.map (verdict r true)).flatMap verdictLines = es.flatMap Explanation.full := by
  rw [List.flatMap_map, List.flatMap_def, map_eq_of_explains (·.full_lines) h, List.flatMap_def]

theorem accepted_report (h : List.Forall₂ (Explains r) ds es) (all : Bool) :
    acceptedLines (ds.map (verdict r all)) = es.filterMap Explanation.accepted? := by
  have haccepted := congrArg (List.filterMap id) (map_eq_of_explains (·.accepted?_eq all) h)
  rw [List.filterMap_map, List.filterMap_map] at haccepted
  rw [acceptedLines, List.filterMap_map]
  exact haccepted

theorem failedCount_eq (h : List.Forall₂ (Explains r) ds es) (all : Bool) :
    failedCount (ds.map (verdict r all)) = es.countP (·.isFailed) := by
  have hfailed := congrArg (List.countP not) (map_eq_of_explains (·.passed_eq all) h)
  rw [List.countP_map, List.countP_map] at hfailed
  rw [failedCount, List.countP_map]
  simpa [Function.comp_def] using hfailed

theorem exists_isFailed_iff (h : List.Forall₂ (Explains r) ds es) :
    (∃ e ∈ es, e.isFailed = true) ↔ ∃ d ∈ ds, ∃ f, d.payload.checked r = .error f := by
  induction h with
  | nil => simp
  | cons first _ ih =>
    rw [List.exists_mem_cons_iff, List.exists_mem_cons_iff, first.isFailed_iff, ih]

/-- What two runs come to on the same documents, the one brief and the other in full. -/
structure ExplainsMore (r : Root) (print : Bool) (ds : List Document) (brief full : Outcome) :
    Prop where
  success : full.success = brief.success
  failure_iff : brief.success = false ↔ ∃ d ∈ ds, ∃ f, d.payload.checked r = .error f
  workspace : full.workspace = brief.workspace
  explained : ∃ es passed failed, List.Forall₂ (Explains r) ds es ∧ passed + failed = ds.length ∧
    failed = es.countP (·.isFailed) ∧
    brief.standardOutput = (if print then printed (es.filterMap Explanation.accepted?) else "") ∧
    full.standardOutput = brief.standardOutput ∧
    brief.standardError =
      printed (es.flatMap Explanation.brief ++ [s!"{passed} passed, {failed} failed"]) ∧
    full.standardError =
      printed (es.flatMap Explanation.full ++ [s!"{passed} passed, {failed} failed"])

theorem explainsMore_outcomeOf (r : Root) (w : Workspace) (print : Bool) (ds : List Document) :
    ExplainsMore r print ds (outcomeOf w print (ds.map (verdict r false)))
      (outcomeOf w print (ds.map (verdict r true))) := by
  obtain ⟨es, hes⟩ := exists_forall₂_explains r ds
  have hfailed := failedCount_eq hes
  have hpassed : passedCount (ds.map (verdict r false)) = passedCount (ds.map (verdict r true)) := by
    have hbrief := passedCount_add_failedCount (ds.map (verdict r false))
    have hfull := passedCount_add_failedCount (ds.map (verdict r true))
    rw [hfailed, List.length_map] at hbrief hfull
    omega
  constructor
  case success =>
    rw [Bool.eq_iff_iff, success_outcomeOf, success_outcomeOf, hfailed, hfailed]
  case failure_iff =>
    rw [← exists_isFailed_iff hes, ← Bool.not_eq_true, success_outcomeOf, hfailed, List.countP_eq_zero]
    simp
  case workspace => rfl
  case explained =>
    refine ⟨es, passedCount (ds.map (verdict r false)), es.countP (·.isFailed), hes, ?_, rfl, ?_, ?_,
      ?_, ?_⟩
    · rw [← hfailed false, passedCount_add_failedCount, List.length_map]
    · rw [outcomeOf, accepted_report hes]
    · rw [outcomeOf, outcomeOf, accepted_report hes, accepted_report hes]
    · rw [outcomeOf, verdictReport, brief_report hes, summaryLine_eq, hfailed]
    · rw [outcomeOf, verdictReport, full_report hes, summaryLine_eq, hfailed, hpassed]

end Runs

/-- What a run of the command that validates fails for: the blueprint or its root, or else an input. -/
inductive Fails [PatternEngine] [FilterEngine] (s : Surroundings) (blueprint : BlueprintOptions)
    (root : String) (input : InputOptions) : Failure → Prop
  | notReady {failure : Failure} (notReady : NotReady s.workspace blueprint root failure) :
      Fails s blueprint root input failure
  | notLoaded {schema : Schema} {r : Root} {failure : Failure}
      (compiled : Blueprint.compileFile blueprint.openByDefault s.workspace blueprint.path = .ok schema)
      (rooted : schema.root root = .ok r) (failsToLoad : FailsToLoad s input failure) :
      Fails s blueprint root input failure

/-- Asking for all findings changes only how much is explained. Either both runs fail for the same
reason: the blueprint, its root, or what keeps the documents from being loaded. Or both validate the
same documents, print the same on standard output and have the same success; on standard error the
brief run names the first finding of each document that fails, where the other run goes on with the
rest. -/
theorem all_findings_explain_more [PatternEngine] [FilterEngine] (s : Surroundings)
    (blueprint : BlueprintOptions) (root : String) (input : InputOptions) (print : Bool) :
    (∃ failure, Fails s blueprint root input failure ∧
      run s (.validate blueprint root input false print) = .error failure ∧
      run s (.validate blueprint root input true print) = .error failure) ∨
    ∃ schema r paths ds brief full,
      Blueprint.compileFile blueprint.openByDefault s.workspace blueprint.path = .ok schema ∧
      schema.root root = .ok r ∧ pathsOf s.workspace false input.inputs = .ok paths ∧
      HasDocuments s input paths ds ∧
      run s (.validate blueprint root input false print) = .ok brief ∧
      run s (.validate blueprint root input true print) = .ok full ∧
      ExplainsMore r print ds brief full := by
  rcases ready_or_notReady s.workspace blueprint root with ⟨failure, notReady⟩ |
    ⟨schema, r, compiled, rooted⟩
  · have hrun := run_validate_of_notReady notReady input
    exact .inl ⟨failure, .notReady notReady, hrun false print, hrun true print⟩
  have hrun := run_validate_of_root compiled rooted input
  rw [hrun, hrun]
  rcases documents_cases s input with ⟨paths, ds, resolved, hds, hall⟩ | ⟨failure, hfails, hnone⟩
  · rw [hall]
    exact .inr ⟨schema, r, paths, ds, _, _, compiled, rooted, resolved, hds, rfl, rfl,
      explainsMore_outcomeOf r s.workspace print ds⟩
  · rw [hnone]
    exact .inl ⟨failure, .notLoaded compiled rooted hfails, rfl, rfl⟩

def wrongSwitch : String := "\x7b\"on\": null, \"off\": \x7b\x7d\x7d"

def wrongMember : Finding := ⟨[.field "on"], .typeMismatch .boolean .null⟩

def unknownMember : Finding := ⟨[.field "off"], .unknownField⟩

unseal Text.Utf8.decode in
theorem parseDocument_wrongSwitch :
    parseDocument (wrongSwitch.toList.flatMap String.utf8EncodeChar) =
      .ok (.object [("on", .null), ("off", .object [])]) := by
  rfl

theorem result_wrongSwitch :
    result switchRoot false (.text wrongSwitch) = .error ⟨[wrongMember], by simp⟩ := by
  rw [result, if_neg Bool.false_ne_true, checked_text, Root.validateText, parseDocument_wrongSwitch]
  rfl

theorem resultAll_wrongSwitch : result switchRoot true (.text wrongSwitch) =
    .error ⟨[wrongMember, unknownMember], by simp⟩ := by
  rw [result, if_pos rfl, checkedAll_text, Root.validateTextAll, parseDocument_wrongSwitch]
  rfl

theorem result_emptySwitch (all : Bool) :
    result switchRoot all (.text "\x7b\x7d") = .ok (.object [("on", .bool true)]) := by
  cases all with
  | false =>
    rw [result, if_neg Bool.false_ne_true, checked_text]
    rfl
  | true =>
    rw [result, if_pos rfl, checkedAll_text]
    rfl

/-- A line that passes and one that fails for two reasons. -/
theorem all_findings_explain_more_two_lines :
    let s : Surroundings := ⟨switchWorkspace, ("\x7b\x7d\n" ++ wrongSwitch).toUTF8.toList⟩
    let command (all : Bool) : Command :=
      .validate ⟨"switch.jbp", false⟩ "Switch" standardLines all true
    ∃ ds brief full, HasDocuments s standardLines ["-"] ds ∧ run s (command false) = .ok brief ∧
      run s (command true) = .ok full ∧ ExplainsMore switchRoot true ds brief full ∧
      brief.success = false ∧ full.standardOutput = "\x7b\"on\":true\x7d\n" ∧
      brief.standardError = "ok -:1\nFAIL -:2\n    on expected boolean, found null " ++
        "[type-mismatch]\n1 passed, 1 failed\n" ∧
      full.standardError = "ok -:1\nFAIL -:2\n    on expected boolean, found null " ++
        "[type-mismatch]\n    off unknown field [unknown-field]\n1 passed, 1 failed\n" := by
  intro s command
  have hunits : units standardLines ⟨"-", "\x7b\x7d\n" ++ wrongSwitch⟩ =
      [⟨"-:1", "\x7b\x7d"⟩, ⟨"-:2", wrongSwitch⟩] := by decide
  have hrun (all : Bool) :=
    run_switchWorkspace ("\x7b\x7d\n" ++ wrongSwitch) standardLines all true rfl rfl rfl
  simp only [hunits, List.map_cons, List.map_nil, result_emptySwitch] at hrun
  have hfalse := hrun false
  have htrue := hrun true
  rw [result_wrongSwitch] at hfalse
  rw [resultAll_wrongSwitch] at htrue
  rcases all_findings_explain_more s ⟨"switch.jbp", false⟩ "Switch" standardLines true with
    ⟨failure, -, hfails, -⟩ |
    ⟨schema, r, paths, ds, brief, full, compiled, rooted, resolved, hds, hb, hf, explains⟩
  · rw [hfalse] at hfails
    cases hfails
  obtain rfl := Except.ok.inj (compileFile_switchWorkspace.symm.trans compiled)
  obtain rfl := Except.ok.inj (root_switchSchema.symm.trans rooted)
  obtain rfl : paths = ["-"] := (Except.ok.inj resolved).symm
  obtain rfl := Except.ok.inj (hfalse.symm.trans hb)
  obtain rfl := Except.ok.inj (htrue.symm.trans hf)
  exact ⟨ds, _, _, hds, hb, hf, explains, rfl, by decide +kernel, by decide +kernel, by decide +kernel⟩

end DocumentSchema.CommandLine
