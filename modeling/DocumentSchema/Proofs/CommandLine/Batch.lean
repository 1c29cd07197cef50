import DocumentSchema.Proofs.CommandLine.Verdicts
import Mathlib.Algebra.GroupWithZero.Nat

namespace DocumentSchema.CommandLine

open Json (Value)
open Validation (Finding Findings)

section Joining

variable {w : Workspace} {print : Bool} {verdicts : List Verdict} {whole : List Verdict}
  {parts : List (List Verdict)}

/-- Verdicts that parts come to as a whole, whatever their labels are. -/
structure AddsUp (w : Workspace) (print : Bool) (whole : List Verdict) (parts : List (List Verdict)) :
    Prop where
  passed : passedCount whole = (parts.map passedCount).sum
  failed : failedCount whole = (parts.map failedCount).sum
  success : (outcomeOf w print whole).success = false ↔
    ∃ part ∈ parts, (outcomeOf w print part).success = false
  standardOutput : (outcomeOf w print whole).standardOutput =
    String.join (parts.map fun part ↦ (outcomeOf w print part).standardOutput)

theorem passedCount_eq (verdicts : List Verdict) :
    passedCount verdicts = (verdicts.map (·.result)).countP (·.isOk) := by
  rw [List.countP_map]
  rfl

theorem failedCount_eq_countP (verdicts : List Verdict) :
    failedCount verdicts = (verdicts.map (·.result)).countP (!·.isOk) := by
  rw [List.countP_map]
  rfl

theorem acceptedLines_eq (verdicts : List Verdict) :
    acceptedLines verdicts = (verdicts.map (·.result)).filterMap fun x ↦ x.toOption.map toString := by
  rw [List.filterMap_map]
  rfl

theorem success_eq (w : Workspace) (print : Bool) (verdicts : List Verdict) :
    (outcomeOf w print verdicts).success = (verdicts.map (·.result)).all (·.isOk) := by
  rw [List.all_map]
  rfl

theorem printed_flatten (ls : List (List String)) :
    printed ls.flatten = String.join (ls.map printed) := by
  induction ls with
  | nil => rfl
  | cons l ls ih =>
    rw [printed] at ih ⊢
    rw [List.flatten_cons, List.map_append, String.join_append, ih, List.map_cons, String.join_cons]
    rfl

theorem addsUp_of_results (w : Workspace) (print : Bool)
    (same : whole.map (·.result) = (parts.map fun part ↦ part.map (·.result)).flatten) :
    AddsUp w print whole parts := by
  constructor
  case passed =>
    rw [passedCount_eq, same, List.countP_flatten, List.map_map]
    exact congrArg List.sum (List.map_congr_left fun part _ ↦ (passedCount_eq part).symm)
  case failed =>
    rw [failedCount_eq_countP, same, List.countP_flatten, List.map_map]
    exact congrArg List.sum (List.map_congr_left fun part _ ↦ (failedCount_eq_countP part).symm)
  case success =>
    simp only [success_eq]
    rw [same, List.all_flatten, List.all_map, List.all_eq_false]
    simp only [Function.comp_apply, Bool.not_eq_true]
  case standardOutput =>
    have haccepted : acceptedLines whole = (parts.map acceptedLines).flatten := by
      rw [acceptedLines_eq, same, List.filterMap_flatten, List.map_map]
      exact congrArg List.flatten (List.map_congr_left fun part _ ↦ (acceptedLines_eq part).symm)
    cases print with
    | true =>
      simp only [outcomeOf, if_true]
      rw [haccepted, printed_flatten, List.map_map]
      rfl
    | false =>
      simp only [outcomeOf, Bool.false_eq_true, if_false]
      clear same haccepted
      induction parts with
      | nil => rfl
      | cons part parts ih => rw [List.map_cons, String.join_cons, ← ih]; rfl

end Joining

section Alone

variable {s : Surroundings} {blueprint : BlueprintOptions} {root : String} {o : InputOptions}
  {all print : Bool} {r : Root} {text label : String}

def Surroundings.alone (s : Surroundings) (text : String) : Surroundings :=
  { s with standardInput := text.toUTF8.toList }

def InputOptions.alone (o : InputOptions) : InputOptions := { o with byLine := false, inputs := ["-"] }

theorem verdicts_named (r : Root) (all : Bool) (label : String) (payloads : List Payload) :
    (named Document.mk label payloads).map (verdict r all) =
      named Verdict.mk label (payloads.map (result r all)) := by
  rw [map_named, named_map]
  simp only [verdict_eq]

theorem results_named (label : String) (results : List (Except Findings Value)) :
    (named Verdict.mk label results).map (·.result) = results := by
  rw [map_named]
  match results with
  | [] => rfl
  | [x] => rfl
  | x :: x' :: rest => exact List.zipIdx_map_fst 0 (x :: x' :: rest)

variable [FilterEngine]

theorem documents_alone (s : Surroundings) (o : InputOptions) (text : String) :
    documents (s.alone text) o.alone = documentsOf o ⟨"-", text⟩ := by
  have hpaths : documents (s.alone text) o.alone = documentsOfPaths (s.alone text) o.alone ["-"] := rfl
  have hcontents : HasContents (s.alone text) ["-"] [⟨"-", text⟩] :=
    .cons (readInput_standardInput s.workspace text) .nil
  rw [hpaths, documentsOfPaths_eq hcontents]
  have hunits : [⟨"-", text⟩].flatMap (units o.alone) = [⟨"-", text⟩] := rfl
  rw [hunits, documentsOfUnits_cons]
  change (documentsOf o ⟨"-", text⟩).bind _ = _
  cases documentsOf o ⟨"-", text⟩ with
  | error failure => rfl
  | ok ds => exact congrArg Except.ok (List.append_nil ds)

variable [PatternEngine]

/-- A text that is validated alone, with a result for each of its payloads. -/
structure RunsAlone (s : Surroundings) (blueprint : BlueprintOptions) (root : String) (o : InputOptions)
    (all print : Bool) (r : Root) (text : String) (results : List (Except Findings Value)) : Prop where
  payloads : ∃ payloads, HasPayloads o text payloads ∧ results = payloads.map (result r all)
  outcome : run (s.alone text) (.validate blueprint root o.alone all print) =
    .ok (outcomeOf s.workspace print (named Verdict.mk "-" results))

theorem RunsAlone.results_eq {results : List (Except Findings Value)}
    (h : RunsAlone s blueprint root o all print r text results) (noPointer : o.pointer = none)
    (noFilter : o.filter = none) : results = [result r all (.text text)] := by
  obtain ⟨⟨payloads, hpayloads, rfl⟩, -⟩ := h
  cases hpayloads with
  | unread | malformed => rfl
  | part _ given => cases noPointer.symm.trans given
  | outputs given => cases noFilter.symm.trans given

end Alone

section Batch

variable [PatternEngine] [FilterEngine]

/-- What validating units in one run comes to, compared with validating the text of each alone. -/
inductive Concatenates (s : Surroundings) (blueprint : BlueprintOptions) (root : String)
    (o : InputOptions) (all print : Bool) (us : List Labelled) : Prop
  | notReady {failure : Failure} (notReady : NotReady s.workspace blueprint root failure)
      (together : run s (.validate blueprint root o all print) = .error failure)
      (alone : ∀ unit ∈ us,
        run (s.alone unit.text) (.validate blueprint root o.alone all print) = .error failure)
  | verdicts {schema : Schema} {r : Root} {runs : List (Labelled × List (Except Findings Value))}
      (compiled : Blueprint.compileFile blueprint.openByDefault s.workspace blueprint.path = .ok schema)
      (rooted : schema.root root = .ok r)
      (units : runs.map (·.1) = us)
      (alone : ∀ unit ∈ runs, RunsAlone s blueprint root o all print r unit.1.text unit.2)
      (together : run s (.validate blueprint root o all print) = .ok (outcomeOf s.workspace print
        (runs.flatMap fun unit ↦ named Verdict.mk unit.1.label unit.2)))
      (addsUp : AddsUp s.workspace print
        (runs.flatMap fun unit ↦ named Verdict.mk unit.1.label unit.2)
        (runs.map fun unit ↦ named Verdict.mk "-" unit.2))
  | notLoaded {schema : Schema} {r : Root} {before after : List Labelled} {unit : Labelled}
      {fault : String → Failure}
      (compiled : Blueprint.compileFile blueprint.openByDefault s.workspace blueprint.path = .ok schema)
      (rooted : schema.root root = .ok r)
      (units : us = before ++ unit :: after)
      (loaded : ∀ u ∈ before, ∃ results, RunsAlone s blueprint root o all print r u.text results)
      (fails : HasLoadFault o unit.text fault)
      (alone : run (s.alone unit.text) (.validate blueprint root o.alone all print) =
        .error (fault "-"))
      (together : run s (.validate blueprint root o all print) = .error (fault unit.label))

variable {s : Surroundings} {blueprint : BlueprintOptions} {root : String} {o : InputOptions}
  {all print : Bool} {paths : List String} {inputs us : List Labelled}

/-- Validating several units comes to the same as validating each of them alone. The units of an input are
the input itself or its lines that are not blank, told apart by the numbers of the lines. If all units
are loaded, the verdicts are those on each of them, in their order and under their labels, and counts,
success and output add up; the first unit that is not loaded ends the run, without any verdict. -/
theorem batch_concatenates (resolved : pathsOf s.workspace false o.inputs = .ok paths)
    (contents : HasContents s paths inputs) : ∃ each, List.Forall₂ (HasUnits o) inputs each ∧
      Concatenates s blueprint root o all print each.flatten := by
  refine ⟨inputs.map (units o), ?_, ?_⟩
  · rw [List.forall₂_map_right_iff, List.forall₂_same]
    exact fun input _ ↦ hasUnits_iff.2 rfl
  have hdocuments : documents s o = documentsOfUnits o (inputs.map (units o)).flatten := by
    rw [documents, resolved, ← List.flatMap_def]
    exact documentsOfPaths_eq contents
  generalize (inputs.map (units o)).flatten = us at hdocuments ⊢
  rcases ready_or_notReady s.workspace blueprint root with ⟨failure, notReady⟩ |
    ⟨schema, r, compiled, rooted⟩
  · refine .notReady notReady (run_validate_of_notReady notReady o all print) fun unit _ ↦ ?_
    exact run_validate_of_notReady (s := s.alone unit.text) notReady o.alone all print
  have hrun := run_validate_of_root compiled rooted o all print
  have hrunAlone (text : String) :=
    run_validate_of_root (s := s.alone text) compiled rooted o.alone all print
  have halone {text : String} {payloads : List Payload} (h : HasPayloads o text payloads) :
      RunsAlone s blueprint root o all print r text (payloads.map (result r all)) := by
    refine ⟨⟨payloads, h, rfl⟩, ?_⟩
    rw [hrunAlone text, documents_alone, documentsOf_of_hasPayloads h,
      ← verdicts_named]
    rfl
  rcases documentsOfUnits_cases o us with ⟨loads, rfl, hloads, hall⟩ |
    ⟨before, unit, after, fault, rfl, hbefore, hfault, hfails⟩
  case inl =>
    have hunits : (loads.map fun load ↦ (load.1, load.2.map (result r all))).map (·.1) =
        loads.map (·.1) := List.map_map
    refine .verdicts compiled rooted hunits ?_ ?_ (addsUp_of_results _ _ ?_)
    · exact List.forall_mem_map.2 fun load hload ↦ halone (hloads load hload)
    · rw [hrun, hdocuments, hall, List.flatMap_map, Except.map, List.map_flatMap]
      simp only [verdicts_named]
    · rw [List.map_flatMap, List.map_map, List.flatMap_def]
      simp only [Function.comp_def, results_named]
  case inr =>
    refine .notLoaded compiled rooted rfl ?_ hfault ?_ ?_
    · intro u hu
      obtain ⟨payloads, hpayloads⟩ := hbefore u hu
      exact ⟨_, halone hpayloads⟩
    · rw [hrunAlone unit.text, documents_alone,
        documentsOf_of_hasLoadFault hfault]
      rfl
    · rw [hrun, hdocuments, hfails]
      rfl

end Batch

/-- Two lines with a blank one between them, on standard input. -/
theorem batch_concatenates_two_lines :
    let s : Surroundings := ⟨switchWorkspace, "\x7b\x7d\r\n \n2".toUTF8.toList⟩
    let blueprint : BlueprintOptions := ⟨"switch.jbp", false⟩
    let one : Except Findings Value := .ok (.object [("on", .bool true)])
    let two : Except Findings Value := .error (.single ⟨[], .typeMismatch .object .number⟩)
    (pathsOf s.workspace false standardLines.inputs = .ok ["-"] ∧
      HasContents s ["-"] [⟨"-", "\x7b\x7d\r\n \n2"⟩]) ∧
    RunsAlone s blueprint "Switch" standardLines false true switchRoot "\x7b\x7d" [one] ∧
    RunsAlone s blueprint "Switch" standardLines false true switchRoot "2" [two] ∧
    run s (.validate blueprint "Switch" standardLines false true) =
      .ok (outcomeOf switchWorkspace true [⟨"-:1", one⟩, ⟨"-:3", two⟩]) := by
  intro s blueprint one two
  have hone : result switchRoot false (.text "\x7b\x7d") = one := by
    rw [result, if_neg Bool.false_ne_true, checked_text]
    rfl
  have htwo : result switchRoot false (.text "2") = two := by
    rw [result, if_neg Bool.false_ne_true, checked_text]
    rfl
  have hpaths : pathsOf s.workspace false standardLines.inputs = .ok ["-"] := rfl
  have hcontents := hasContents_switchWorkspace "\x7b\x7d\r\n \n2"
  have hunits : units standardLines ⟨"-", "\x7b\x7d\r\n \n2"⟩ =
      [⟨"-:1", "\x7b\x7d"⟩, ⟨"-:3", "2"⟩] := by decide
  obtain ⟨each, heach, hconcatenates⟩ :=
    @batch_concatenates _ _ s blueprint "Switch" standardLines false true _ _ hpaths hcontents
  obtain ⟨us, _, hus, hnone, rfl⟩ := List.forall₂_cons_left_iff.1 heach
  cases hnone
  obtain rfl := hunits.symm.trans (hasUnits_iff.1 hus)
  cases hconcatenates with
  | notReady _ together =>
    rw [run_switchWorkspace _ standardLines false true rfl rfl rfl] at together
    cases together
  | notLoaded _ _ _ _ fails => cases fails with | pointer given | filter given => cases given
  | @verdicts schema r runs compiled rooted runsOf alone together =>
    obtain rfl := Except.ok.inj (compileFile_switchWorkspace.symm.trans compiled)
    obtain rfl := Except.ok.inj (root_switchSchema.symm.trans rooted)
    obtain ⟨⟨u, first⟩, _, rfl, rfl, hrest⟩ := List.map_eq_cons_iff.1 runsOf
    obtain ⟨⟨u', second⟩, _, rfl, rfl, hnone⟩ := List.map_eq_cons_iff.1 hrest
    obtain rfl := List.map_eq_nil_iff.1 hnone
    obtain ⟨hfirst, halone⟩ := List.forall_mem_cons.1 alone
    have hsecond := List.forall_mem_singleton.1 halone
    obtain rfl : first = [one] := by
      rw [← hone]
      exact hfirst.results_eq rfl rfl
    obtain rfl : second = [two] := by
      rw [← htwo]
      exact hsecond.results_eq rfl rfl
    exact ⟨⟨hpaths, hcontents⟩, hfirst, hsecond, together⟩

/-- A carriage return at the end of a text is part of the last line, and the verdict on this line would be
another one without it. -/
theorem last_return_kept :
    let kept : Finding := ⟨[], .malformedInput
      "control character (\\u0000-\\u001F) found while parsing a string at line 1 column 3"⟩
    let dropped : Finding := ⟨[], .malformedInput "EOF while parsing a string at line 1 column 2"⟩
    run ⟨switchWorkspace, "\"a\r".toUTF8.toList⟩
        (.validate ⟨"switch.jbp", false⟩ "Switch" standardLines false false) =
      .ok (outcomeOf switchWorkspace false [⟨"-:1", .error (.single kept)⟩]) ∧
    run ⟨switchWorkspace, "\"a".toUTF8.toList⟩
        (.validate ⟨"switch.jbp", false⟩ "Switch" standardLines.alone false false) =
      .ok (outcomeOf switchWorkspace false [⟨"-", .error (.single dropped)⟩]) ∧
    kept ≠ dropped := by
  intro kept dropped
  have hkept : result switchRoot false (.text "\"a\r") = .error (.single kept) := by
    rw [result, if_neg Bool.false_ne_true, checked_text]
    rfl
  have hdropped : result switchRoot false (.text "\"a") = .error (.single dropped) := by
    rw [result, if_neg Bool.false_ne_true, checked_text]
    rfl
  have hline : units standardLines ⟨"-", "\"a\r"⟩ = [⟨"-:1", "\"a\r"⟩] := by decide
  have hinput : units standardLines.alone ⟨"-", "\"a"⟩ = [⟨"-", "\"a"⟩] := rfl
  refine ⟨?_, ?_, by decide⟩
  · rw [run_switchWorkspace _ _ _ _ rfl rfl rfl, hline, List.map_singleton, hkept]
  · rw [run_switchWorkspace _ _ _ _ rfl rfl rfl, hinput, List.map_singleton, hdropped]

end DocumentSchema.CommandLine
