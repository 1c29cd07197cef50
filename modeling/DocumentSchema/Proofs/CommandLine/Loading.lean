import DocumentSchema.CommandLine.Documents
import DocumentSchema.Proofs.Except
import DocumentSchema.Proofs.Text.Split
import DocumentSchema.Proofs.Text.Utf8

namespace DocumentSchema.CommandLine

open Json (Value)

section Units

variable {label : String} {o : InputOptions} {input : Labelled} {ls : List (List Char)}
  {us : List Labelled} {i : Nat}

/-- The lines that are not blank, under their numbers; blank lines are counted too. -/
inductive HasNumbered (label : String) : Nat → List (List Char) → List Labelled → Prop
  | nil {i : Nat} : HasNumbered label i [] []
  | blank {i : Nat} {line : List Char} {ls : List (List Char)} {us : List Labelled}
      (blank : ∀ c ∈ line, Text.isBlank c = true) (more : HasNumbered label (i + 1) ls us) :
      HasNumbered label i (line :: ls) us
  | unit {i : Nat} {line : List Char} {ls : List (List Char)} {us : List Labelled}
      (notBlank : ∃ c ∈ line, Text.isBlank c = false) (more : HasNumbered label (i + 1) ls us) :
      HasNumbered label i (line :: ls) (⟨s!"{label}:{i}", String.ofList line⟩ :: us)

inductive HasUnits (o : InputOptions) (input : Labelled) : List Labelled → Prop
  | whole (atOnce : o.byLine = false) : HasUnits o input [input]
  | lines {ls : List (List Char)} {us : List Labelled} (byLine : o.byLine = true)
      (hasLines : Text.HasLines input.text.toList ls) (numbered : HasNumbered input.label 1 ls us) :
      HasUnits o input us

def numbered (label : String) (i : Nat) (ls : List (List Char)) : List Labelled :=
  (ls.zipIdx i).filterMap fun (line, number) ↦
    if line.all Text.isBlank then none else some ⟨s!"{label}:{number}", String.ofList line⟩

theorem hasNumbered_iff : HasNumbered label i ls us ↔ numbered label i ls = us := by
  induction ls generalizing i us with
  | nil =>
    constructor
    · intro h
      cases h
      rfl
    · rintro rfl
      exact .nil
  | cons line ls ih =>
    by_cases hblank : line.all Text.isBlank = true
    · have hall : ∀ c ∈ line, Text.isBlank c = true := List.all_eq_true.1 hblank
      have hnumbered : numbered label i (line :: ls) = numbered label (i + 1) ls := by
        simp only [numbered, List.zipIdx_cons, List.filterMap_cons, hblank, if_true]
      rw [hnumbered, ← ih]
      constructor
      · intro h
        cases h with
        | blank _ more => exact more
        | unit notBlank =>
          obtain ⟨c, hc, hfalse⟩ := notBlank
          simp [hall c hc] at hfalse
      · exact .blank hall
    · have hsome : ∃ c ∈ line, Text.isBlank c = false := by simpa using hblank
      have hnumbered : numbered label i (line :: ls) =
          ⟨s!"{label}:{i}", String.ofList line⟩ :: numbered label (i + 1) ls := by
        simp only [numbered, List.zipIdx_cons, List.filterMap_cons, hblank, if_false,
          Bool.false_eq_true]
      rw [hnumbered]
      constructor
      · intro h
        cases h with
        | blank hall => exact absurd (List.all_eq_true.2 hall) hblank
        | unit _ more => rw [ih.1 more]
      · rintro rfl
        exact .unit hsome (ih.2 rfl)

theorem hasUnits_iff : HasUnits o input us ↔ units o input = us := by
  cases hmode : o.byLine with
  | false =>
    rw [units, hmode, if_neg Bool.false_ne_true]
    constructor
    · intro h
      cases h with
      | whole => rfl
      | lines byLine => simp [hmode] at byLine
    · rintro rfl
      exact .whole hmode
  | true =>
    have hunits : units o input = numbered input.label 1 (Text.lines input.text.toList) := by
      rw [units, hmode, if_pos rfl]
      rfl
    rw [hunits, ← hasNumbered_iff]
    constructor
    · intro h
      cases h with
      | whole atOnce => simp [hmode] at atOnce
      | lines _ hasLines numbered => rwa [Text.hasLines_iff.1 hasLines]
    · exact .lines hmode (Text.hasLines_lines _)

end Units

section Inputs

def Surroundings.past (s : Surroundings) (path : String) : Surroundings :=
  if path = "-" then { s with standardInput := [] } else s

inductive HasContents : Surroundings → List String → List Labelled → Prop
  | nil {s : Surroundings} : HasContents s [] []
  | cons {s : Surroundings} {path text : String} {rest : List String} {inputs : List Labelled}
      (read : readInput s path = .ok ⟨path, text⟩) (more : HasContents (s.past path) rest inputs) :
      HasContents s (path :: rest) (⟨path, text⟩ :: inputs)

theorem label_of_readInput {s : Surroundings} {path : String} {input : Labelled}
    (read : readInput s path = .ok input) : input.label = path := by
  unfold readInput at read
  split at read
  all_goals
    split at read
    all_goals cases read
  all_goals rfl

theorem readInput_standardInput (w : Workspace) (text : String) :
    readInput ⟨w, text.toUTF8.toList⟩ "-" = .ok ⟨"-", text⟩ := by
  rw [readInput, if_pos rfl, Text.Utf8.text?_toUTF8]

variable [FilterEngine] {s : Surroundings} {o : InputOptions} {paths : List String}
  {inputs us : List Labelled}

theorem documentsOfUnits_cons (u : Labelled) : documentsOfUnits o (u :: us) =
    (documentsOf o u).bind fun ds ↦ (documentsOfUnits o us).map (ds ++ ·) := by
  rw [documentsOfUnits, documentsOfUnits, List.mapM_cons]
  cases documentsOf o u with
  | error failure => rfl
  | ok ds => cases us.mapM (documentsOf o) <;> rfl

theorem documentsOfUnits_append (us' : List Labelled) : documentsOfUnits o (us ++ us') =
    (documentsOfUnits o us).bind fun ds ↦ (documentsOfUnits o us').map (ds ++ ·) := by
  induction us with
  | nil =>
    have hnil : documentsOfUnits o [] = .ok [] := rfl
    rw [hnil, List.nil_append]
    cases documentsOfUnits o us' <;> rfl
  | cons u us ih =>
    rw [List.cons_append, documentsOfUnits_cons, documentsOfUnits_cons, ih]
    cases documentsOf o u with
    | error failure => rfl
    | ok ds =>
      cases documentsOfUnits o us with
      | error failure => rfl
      | ok ds' => cases documentsOfUnits o us' <;> simp [Except.bind, Except.map]

theorem documentsOfPaths_cons {path : String} {input : Labelled} (read : readInput s path = .ok input)
    (rest : List String) : documentsOfPaths s o (path :: rest) =
      (documentsOfUnits o (units o input)).bind fun ds ↦
        (documentsOfPaths (s.past path) o rest).map (ds ++ ·) := by
  rw [documentsOfPaths, read]
  dsimp only [bind, Except.bind]
  cases documentsOfUnits o (units o input) with
  | error failure => rfl
  | ok ds =>
    dsimp only
    rw [← Surroundings.past]
    cases documentsOfPaths (s.past path) o rest <;> rfl

theorem documentsOfPaths_eq (contents : HasContents s paths inputs) :
    documentsOfPaths s o paths = documentsOfUnits o (inputs.flatMap (units o)) := by
  induction contents with
  | nil => rfl
  | @cons s path text rest inputs read _ ih =>
    rw [documentsOfPaths_cons read, List.flatMap_cons, documentsOfUnits_append, ih]

end Inputs

section Payloads

variable {o : InputOptions} {text : String}

/-- The part of a value that a pointer leads to; without a pointer, all of it. -/
inductive HasPart (o : InputOptions) : Value → Value → Prop
  | all {v : Value} (noPointer : o.pointer = none) : HasPart o v v
  | pointed {pointer : String} {v part : Value} (given : o.pointer = some pointer)
      (leads : Json.Pointer.follow pointer v = some part) : HasPart o v part

def named {α β : Type} (make : String → α → β) (label : String) : List α → List β
  | [a] => [make label a]
  | as => as.zipIdx.map fun (a, i) ↦ make s!"{label}#{i}" a

theorem named_map {α β γ : Type} (make : String → β → γ) (f : α → β) (label : String) (as : List α) :
    named make label (as.map f) = named (fun label a ↦ make label (f a)) label as := by
  match as with
  | [] => rfl
  | [a] => rfl
  | a :: a' :: rest => simp [named, List.zipIdx_cons, List.zipIdx_map, Function.comp_def]

theorem map_named {α β γ : Type} (make : String → α → β) (f : β → γ) (label : String) (as : List α) :
    (named make label as).map f = named (fun label a ↦ f (make label a)) label as := by
  match as with
  | [] => rfl
  | [a] => rfl
  | a :: a' :: rest => simp only [named, List.map_map, Function.comp_def]

theorem fanOut_eq (label : String) (outputs : List Value) :
    fanOut label outputs = named Document.mk label (outputs.map .value) := by
  rw [named_map]
  match outputs with
  | [] => rfl
  | [v] => rfl
  | v :: v' :: rest => rfl

theorem pointed_of_hasPart {v part : Value} (h : HasPart o v part) (label : String) :
    pointed o label v = .ok part := by
  cases h with
  | all noPointer => rw [pointed, noPointer]
  | pointed given leads => simp only [pointed, given, leads]

variable [FilterEngine]

/-- What there is to validate of the text of a unit. -/
inductive HasPayloads (o : InputOptions) (text : String) : List Payload → Prop
  | unread (noPointer : o.pointer = none) (noFilter : o.filter = none) :
      HasPayloads o text [.text text]
  | malformed {m : Json.Malformed} (read : Json.read text.toUTF8.toList = .error m) :
      HasPayloads o text [.text text]
  | part {pointer : String} {v part : Value} (noFilter : o.filter = none)
      (given : o.pointer = some pointer) (read : Json.read text.toUTF8.toList = .ok v)
      (leads : Json.Pointer.follow pointer v = some part) : HasPayloads o text [.value part]
  | outputs {filter : String} {v part : Value} {outputs : List Value} (given : o.filter = some filter)
      (read : Json.read text.toUTF8.toList = .ok v) (hasPart : HasPart o v part)
      (runs : FilterEngine.outputs filter part = some outputs) : HasPayloads o text (outputs.map .value)

/-- What keeps the text of a unit from being loaded, as a failure of the label of the unit. -/
inductive HasLoadFault (o : InputOptions) (text : String) : (String → Failure) → Prop
  | pointer {pointer : String} {v : Value} (given : o.pointer = some pointer)
      (read : Json.read text.toUTF8.toList = .ok v)
      (leadsNowhere : Json.Pointer.follow pointer v = none) :
      HasLoadFault o text (.pointerMissed pointer)
  | filter {filter : String} {v part : Value} (given : o.filter = some filter)
      (read : Json.read text.toUTF8.toList = .ok v) (hasPart : HasPart o v part)
      (fails : FilterEngine.outputs filter part = none) : HasLoadFault o text .filterFailed

theorem documentsOf_of_read {v : Value} (asked : ¬ (o.pointer = none ∧ o.filter = none))
    (read : Json.read text.toUTF8.toList = .ok v) (label : String) :
    documentsOf o ⟨label, text⟩ = (pointed o label v).bind (filtered o label) := by
  have hasked : ¬ (o.pointer.isNone && o.filter.isNone) = true := by
    rwa [Bool.and_eq_true, Option.isNone_iff_eq_none, Option.isNone_iff_eq_none]
  rw [documentsOf, if_neg hasked, read]

theorem documentsOf_of_hasPayloads {payloads : List Payload} (h : HasPayloads o text payloads)
    (label : String) : documentsOf o ⟨label, text⟩ = .ok (named Document.mk label payloads) := by
  cases h with
  | unread noPointer noFilter =>
    rw [documentsOf, noPointer, noFilter]
    rfl
  | malformed read =>
    rw [documentsOf, read]
    exact ite_self _
  | part noFilter given read leads =>
    rw [documentsOf_of_read (by simp [given]) read, pointed_of_hasPart (.pointed given leads),
      Except.bind, filtered, noFilter]
    rfl
  | outputs given read hasPart runs =>
    rw [documentsOf_of_read (by simp [given]) read, pointed_of_hasPart hasPart, Except.bind, filtered,
      given]
    simp only [runs, fanOut_eq]

theorem documentsOfUnits_unread (noPointer : o.pointer = none) (noFilter : o.filter = none)
    (us : List Labelled) :
    documentsOfUnits o us = .ok (us.map fun unit ↦ ⟨unit.label, .text unit.text⟩) := by
  induction us with
  | nil => rfl
  | cons u us ih =>
    rw [documentsOfUnits_cons, documentsOf_of_hasPayloads (.unread noPointer noFilter), ih]
    rfl

theorem documentsOf_of_hasLoadFault {fault : String → Failure} (h : HasLoadFault o text fault)
    (label : String) : documentsOf o ⟨label, text⟩ = .error (fault label) := by
  cases h with
  | pointer given read leadsNowhere =>
    rw [documentsOf_of_read (by simp [given]) read, pointed, given]
    simp only [leadsNowhere, Except.bind]
  | filter given read hasPart fails =>
    rw [documentsOf_of_read (by simp [given]) read, pointed_of_hasPart hasPart, Except.bind, filtered,
      given]
    simp only [fails]

theorem payloads_or_loadFault_of_part {v part : Value}
    (asked : ¬ (o.pointer = none ∧ o.filter = none))
    (read : Json.read text.toUTF8.toList = .ok v) (hasPart : HasPart o v part) :
    (∃ payloads, HasPayloads o text payloads) ∨ ∃ fault, HasLoadFault o text fault := by
  cases given : o.filter with
  | none =>
    cases hasPart with
    | all noPointer => exact absurd ⟨noPointer, given⟩ asked
    | pointed hpointer leads => exact .inl ⟨_, .part given hpointer read leads⟩
  | some filter =>
    cases runs : FilterEngine.outputs filter part with
    | none => exact .inr ⟨_, .filter given read hasPart runs⟩
    | some outputs => exact .inl ⟨_, .outputs given read hasPart runs⟩

theorem payloads_or_loadFault (o : InputOptions) (text : String) :
    (∃ payloads, HasPayloads o text payloads) ∨ ∃ fault, HasLoadFault o text fault := by
  by_cases asked : o.pointer = none ∧ o.filter = none
  · exact .inl ⟨_, .unread asked.1 asked.2⟩
  cases read : Json.read text.toUTF8.toList with
  | error m => exact .inl ⟨_, .malformed read⟩
  | ok v =>
    cases given : o.pointer with
    | none => exact payloads_or_loadFault_of_part asked read (.all given)
    | some pointer =>
      cases leads : Json.Pointer.follow pointer v with
      | none => exact .inr ⟨_, .pointer given read leads⟩
      | some part => exact payloads_or_loadFault_of_part asked read (.pointed given leads)

theorem documentsOfUnits_cases (o : InputOptions) (us : List Labelled) :
    (∃ loads : List (Labelled × List Payload), loads.map (·.1) = us ∧
      (∀ load ∈ loads, HasPayloads o load.1.text load.2) ∧
      documentsOfUnits o us =
        .ok (loads.flatMap fun load ↦ named Document.mk load.1.label load.2)) ∨
    ∃ before unit after fault, us = before ++ unit :: after ∧
      (∀ u ∈ before, ∃ payloads, HasPayloads o u.text payloads) ∧ HasLoadFault o unit.text fault ∧
      documentsOfUnits o us = .error (fault unit.label) := by
  induction us with
  | nil => exact .inl ⟨[], rfl, by simp, rfl⟩
  | cons u us ih =>
    rw [documentsOfUnits_cons]
    rcases payloads_or_loadFault o u.text with ⟨payloads, hpayloads⟩ | ⟨fault, hfault⟩
    case inr =>
      refine .inr ⟨[], u, us, fault, rfl, by simp, hfault, ?_⟩
      rw [documentsOf_of_hasLoadFault hfault u.label]
      rfl
    rw [documentsOf_of_hasPayloads hpayloads u.label, Except.bind]
    rcases ih with ⟨loads, rfl, hloads, hrest⟩ |
      ⟨before, unit, after, fault, rfl, hbefore, hfault, hrest⟩
    · refine .inl ⟨(u, payloads) :: loads, rfl, List.forall_mem_cons.2 ⟨hpayloads, hloads⟩, ?_⟩
      rw [hrest]
      rfl
    · refine .inr ⟨u :: before, unit, after, fault, rfl, ?_, hfault, ?_⟩
      · exact List.forall_mem_cons.2 ⟨⟨payloads, hpayloads⟩, hbefore⟩
      · rw [hrest]
        rfl

end Payloads

section Documents

variable [FilterEngine]

/-- What keeps the inputs under paths from being loaded: one that is not read, or a unit of one that is
not loaded, after everything before it has been. -/
inductive Unloadable (o : InputOptions) : Surroundings → List String → Failure → Prop
  | unreadable {s : Surroundings} {path : String} {rest : List String} {failure : Failure}
      (read : readInput s path = .error failure) : Unloadable o s (path :: rest) failure
  | unit {s : Surroundings} {path : String} {rest : List String} {input unit : Labelled}
      {before after : List Labelled} {fault : String → Failure} (read : readInput s path = .ok input)
      (units : HasUnits o input (before ++ unit :: after))
      (loaded : ∀ u ∈ before, ∃ payloads, HasPayloads o u.text payloads)
      (fails : HasLoadFault o unit.text fault) : Unloadable o s (path :: rest) (fault unit.label)
  | later {s : Surroundings} {path : String} {rest : List String} {input : Labelled}
      {us : List Labelled} {failure : Failure} (read : readInput s path = .ok input)
      (units : HasUnits o input us) (loaded : ∀ u ∈ us, ∃ payloads, HasPayloads o u.text payloads)
      (more : Unloadable o (s.past path) rest failure) : Unloadable o s (path :: rest) failure

/-- The documents of the inputs under paths: those of the payloads of each unit, unit by unit. -/
inductive HasDocuments (s : Surroundings) (o : InputOptions) (paths : List String) :
    List Document → Prop
  | mk {inputs : List Labelled} {each : List (List Labelled)}
      {loads : List (Labelled × List Payload)} (contents : HasContents s paths inputs)
      (units : List.Forall₂ (HasUnits o) inputs each) (loadsOf : loads.map (·.1) = each.flatten)
      (payloads : ∀ load ∈ loads, HasPayloads o load.1.text load.2) :
      HasDocuments s o paths (loads.flatMap fun load ↦ named Document.mk load.1.label load.2)

theorem HasDocuments.nil (s : Surroundings) (o : InputOptions) : HasDocuments s o [] [] :=
  @HasDocuments.mk _ s o [] [] [] [] .nil .nil rfl (List.forall_mem_nil _)

theorem HasDocuments.cons {s : Surroundings} {o : InputOptions} {path : String} {rest : List String}
    {input : Labelled} {loads : List (Labelled × List Payload)} {ds : List Document}
    (read : readInput s path = .ok input) (units : HasUnits o input (loads.map (·.1)))
    (payloads : ∀ load ∈ loads, HasPayloads o load.1.text load.2)
    (more : HasDocuments (s.past path) o rest ds) :
    HasDocuments s o (path :: rest)
      ((loads.flatMap fun load ↦ named Document.mk load.1.label load.2) ++ ds) := by
  obtain ⟨label, text⟩ := input
  obtain rfl : label = path := label_of_readInput read
  cases more with
  | mk contents units' loadsOf payloads' =>
    rw [← List.flatMap_append]
    refine .mk (.cons read contents) (.cons units units') ?_ ?_
    · rw [List.map_append, loadsOf, List.flatten_cons]
    · exact List.forall_mem_append.2 ⟨payloads, payloads'⟩

theorem documentsOfPaths_cases (s : Surroundings) (o : InputOptions) (paths : List String) :
    (∃ ds, HasDocuments s o paths ds ∧ documentsOfPaths s o paths = .ok ds) ∨
      ∃ failure, Unloadable o s paths failure ∧ documentsOfPaths s o paths = .error failure := by
  induction paths generalizing s with
  | nil => exact .inl ⟨[], .nil s o, rfl⟩
  | cons path rest ih =>
    cases read : readInput s path with
    | error failure =>
      refine .inr ⟨failure, .unreadable read, ?_⟩
      rw [documentsOfPaths, read]
      rfl
    | ok input =>
      rw [documentsOfPaths_cons read]
      rcases documentsOfUnits_cases o (units o input) with ⟨loads, hloads, hpayloads, hall⟩ |
        ⟨before, unit, after, fault, hsplit, hbefore, hfault, hfails⟩
      case inr =>
        refine .inr ⟨_, .unit read (hasUnits_iff.2 hsplit) hbefore hfault, ?_⟩
        rw [hfails]
        rfl
      rw [hall, Except.bind]
      have hunits : HasUnits o input (loads.map (·.1)) := hasUnits_iff.2 hloads.symm
      rcases ih (s.past path) with ⟨ds, hds, hrest⟩ | ⟨failure, hfails, hrest⟩
      · refine .inl ⟨_, .cons read hunits hpayloads hds, ?_⟩
        rw [hrest]
        rfl
      · refine .inr ⟨failure, .later read hunits ?_ hfails, ?_⟩
        · exact List.forall_mem_map.2 fun load hload ↦ ⟨_, hpayloads load hload⟩
        · rw [hrest]
          rfl

/-- What keeps a run from having documents. -/
inductive FailsToLoad (s : Surroundings) (o : InputOptions) : Failure → Prop
  | paths {failure : Failure} (unresolved : pathsOf s.workspace false o.inputs = .error failure) :
      FailsToLoad s o failure
  | inputs {paths : List String} {failure : Failure}
      (resolved : pathsOf s.workspace false o.inputs = .ok paths)
      (unloadable : Unloadable o s paths failure) : FailsToLoad s o failure

theorem documents_cases (s : Surroundings) (o : InputOptions) :
    (∃ paths ds, pathsOf s.workspace false o.inputs = .ok paths ∧ HasDocuments s o paths ds ∧
      documents s o = .ok ds) ∨
    ∃ failure, FailsToLoad s o failure ∧ documents s o = .error failure := by
  rw [documents]
  cases resolved : pathsOf s.workspace false o.inputs with
  | error failure => exact .inr ⟨failure, .paths resolved, rfl⟩
  | ok paths =>
    rw [Except.bind]
    rcases documentsOfPaths_cases s o paths with ⟨ds, hds, hall⟩ | ⟨failure, hunloadable, hfails⟩
    · exact .inl ⟨paths, ds, rfl, hds, hall⟩
    · exact .inr ⟨failure, .inputs resolved hunloadable, hfails⟩

end Documents

end DocumentSchema.CommandLine
