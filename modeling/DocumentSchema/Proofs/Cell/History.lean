import DocumentSchema.Cell.Session
import DocumentSchema.Pattern.Engine
import DocumentSchema.Proofs.Json.Members

namespace DocumentSchema

open Blueprint (CompileError Source)

/-- How a cell comes about, with its first instance and what it is loaded from. -/
inductive Cell.Begins [PatternEngine] : Cell → Instance → Option Backing → Prop
  | new (i : Instance) : Begins (.new i) i none
  | load {w : Workspace} {serial : Nat} {b : Backing} {schema : Schema} {c : Cell}
      (compiled : b.compile w = .ok schema) (loaded : Cell.load w serial b = .ok c) :
      Begins c ⟨serial, schema⟩ (some b)

theorem Cell.Begins.eq [PatternEngine] {c : Cell} {i : Instance} {backing : Option Backing}
    (h : c.Begins i backing) : c = ⟨i, backing⟩ := by
  cases h with
  | new => rfl
  | load compiled loaded =>
    rw [Cell.load, compiled] at loaded
    exact (Except.ok.inj loaded).symm

namespace Session

/-- What happens while a session goes on: a step of its own, a change of any files by anyone, or the
replacement of the current instance by any other. -/
inductive Event where
  | step (step : Step)
  | files (workspace : Workspace)
  | put (i : Instance)

namespace Event

def keepsCell : Event → Bool
  | .step (.load _) | .step (.new _ _) => false
  | _ => true

def snapshotName? : Event → Option String
  | .step (.snap as) => some as
  | _ => none

def bindingName? : Event → Option String
  | .step (.bind _ as) | .step (.bindSnapshot _ _ as) => some as
  | _ => none

end Event

section Course

variable [PatternEngine]

def Reply.installed? (serial : Nat) : Reply → Option Instance
  | .replaced _ now | .reloaded true now => some ⟨serial, now⟩
  | _ => none

def installed? (s : Session) : Event → Option Instance
  | .step step => (s.step step).1.installed? s.supply
  | .files _ => none
  | .put i => s.cell.map fun _ ↦ i

def after (s : Session) : Event → Session
  | .step step => (s.step step).2
  | .files workspace => { s with workspace }
  | .put i => { s with cell := s.cell.map fun c ↦ (c.replace i).2 }

def afterAll (s : Session) : List Event → Session
  | [] => s
  | e :: rest => (s.after e).afterAll rest

/-- The instance that was put into the cell last, the first one if none was. -/
def latest (s : Session) (first : Instance) : List Event → Instance
  | [] => first
  | e :: rest => (s.after e).latest ((s.installed? e).getD first) rest

section Steps

variable {s : Session} {step : Step} {e : Event} {c : Cell} {i : Instance}
  {backing : Option Backing}

inductive Effect (s : Session) (step : Step) : Reply × Session → Prop
  | aside {reply : Reply} {w : Workspace} (quiet : reply.installed? s.supply = none) :
      Effect s step (reply, { s with workspace := w })
  | install {reply : Reply} {c : Cell} {i : Instance} {supply : Nat} (held : s.cell = some c)
      (installs : reply.installed? s.supply = some i) :
      Effect s step (reply, { s with cell := some { c with current := i }, supply := supply })
  | snapshot {reply : Reply} {as : String} {i : Instance}
      (names : (Event.step step).snapshotName? = some as)
      (quiet : reply.installed? s.supply = none) :
      Effect s step (reply, { s with snapshots := (as, i) :: s.snapshots })
  | binding {reply : Reply} {as : String} {r : Root}
      (names : (Event.step step).bindingName? = some as)
      (quiet : reply.installed? s.supply = none) :
      Effect s step (reply, { s with bindings := (as, r) :: s.bindings })
  | setUp {reply : Reply} {c : Cell} {supply : Nat}
      (sets : (Event.step step).keepsCell = false) :
      Effect s step (reply, { s with cell := some c, supply := supply })

theorem reloadCell_of_no_backing (nowhere : c.backing = none) :
    s.reloadCell c = (.reloaded false c.current.schema, s) := by
  rw [reloadCell, Cell.reload, nowhere]

theorem reloadCell_of_ok {b : Backing} {schema : Schema} (backed : c.backing = some b)
    (compiled : b.compile s.workspace = .ok schema) : s.reloadCell c =
      (.reloaded true schema, s.install { c with current := ⟨s.supply, schema⟩ }) := by
  rw [reloadCell, Cell.reload, backed]
  dsimp only
  rw [compiled]
  rfl

theorem reloadCell_of_error {b : Backing} {error : CompileError} (backed : c.backing = some b)
    (failed : b.compile s.workspace = .error error) :
    s.reloadCell c = (.notReloaded error c.current.schema, s) := by
  rw [reloadCell, Cell.reload, backed]
  dsimp only
  rw [failed]
  rfl

theorem effect_reloadCell (held : s.cell = some c) : Effect s .reload (s.reloadCell c) := by
  cases hbacking : c.backing with
  | none =>
    rw [reloadCell_of_no_backing hbacking]
    exact .aside rfl
  | some b =>
    cases hcompile : b.compile s.workspace with
    | ok schema =>
      rw [reloadCell_of_ok hbacking hcompile]
      exact .install held rfl
    | error error =>
      rw [reloadCell_of_error hbacking hcompile]
      exact .aside rfl

omit [PatternEngine] in
theorem effect_bindRoot {as : String} (names : (Event.step step).bindingName? = some as)
    (schema : Schema) (root : String) : Effect s step (s.bindRoot schema root as) := by
  unfold bindRoot
  cases schema.root root with
  | ok r => exact .binding names rfl
  | error unknown => exact .aside rfl

theorem effect_step (s : Session) (step : Step) : Effect s step (s.step step) := by
  cases step with
  | write | remove | makeDirectory => exact .aside rfl
  | load | new =>
    rw [Session.step]
    split
    case h_1 => exact .setUp rfl
    case h_2 => exact .aside rfl
  | replace openByDefault source =>
    rw [Session.step]
    split
    case h_1 => exact .aside rfl
    case h_2 c held =>
      cases Blueprint.compile openByDefault source with
      | ok schema => exact .install held rfl
      | error error => exact .aside rfl
  | reload =>
    rw [Session.step]
    split
    case h_1 => exact .aside rfl
    case h_2 c held => exact effect_reloadCell held
  | snap =>
    rw [Session.step]
    split
    case h_1 => exact .aside rfl
    case h_2 => exact .snapshot rfl rfl
  | bind | bindSnapshot =>
    rw [Session.step]
    split
    case h_1 => exact .aside rfl
    case h_2 => exact effect_bindRoot rfl _ _
  | _ =>
    rw [Session.step]
    split <;> exact .aside rfl

theorem cell_after (held : s.cell = some ⟨i, backing⟩) (keeps : e.keepsCell = true) :
    (s.after e).cell = some ⟨(s.installed? e).getD i, backing⟩ := by
  cases e with
  | step step =>
    have h := effect_step s step
    rw [after, installed?]
    generalize s.step step = result at h
    cases h with
    | aside quiet => rw [quiet]; exact held
    | install held' installs =>
      -- Only here does the instance change, and then the reply has told so.
      obtain rfl := Option.some.inj (held.symm.trans held')
      rw [installs]
      rfl
    | snapshot _ quiet | binding _ quiet => rw [quiet]; exact held
    | setUp sets => rw [keeps] at sets; cases sets
  | files w => exact held
  | put j => simp [after, installed?, held, Cell.replace]

theorem cell_afterAll {events : List Event} (held : s.cell = some ⟨i, backing⟩)
    (keeps : ∀ e ∈ events, e.keepsCell = true) :
    (s.afterAll events).cell = some ⟨s.latest i events, backing⟩ := by
  induction events generalizing s i with
  | nil => exact held
  | cons e rest ih =>
    -- Session and instance are another before the rest of the events; the backing is the same.
    rw [List.forall_mem_cons] at keeps
    exact ih (cell_after held keeps.1) keeps.2

theorem afterAll_append (s : Session) (events later : List Event) :
    s.afterAll (events ++ later) = (s.afterAll events).afterAll later := by
  induction events generalizing s with
  | nil => rfl
  | cons e rest ih => exact ih (s.after e)

theorem afterAll_invariant (kept : Session → Prop) {harmless : Event → Prop} {events : List Event}
    (step : ∀ s e, kept s → harmless e → kept (s.after e)) (h : kept s)
    (hevents : ∀ e ∈ events, harmless e) : kept (s.afterAll events) := by
  induction events generalizing s with
  | nil => exact h
  | cons e rest ih =>
    rw [List.forall_mem_cons] at hevents
    exact ih (step s e h hevents.1) hevents.2

theorem snapshot_after {name : String} (h : s.snapshots.lookup name = some i)
    (unnamed : e.snapshotName? ≠ some name) : (s.after e).snapshots.lookup name = some i := by
  cases e with
  | step step =>
    have heffect := effect_step s step
    rw [after]
    generalize s.step step = result at heffect
    cases heffect with
    | @snapshot _ as _ names _ =>
      have hne : name ≠ as := fun same ↦ unnamed (same ▸ names)
      rw [Json.lookup_cons_ite, if_neg hne]
      exact h
    | aside | install | binding | setUp => exact h
  | files | put => exact h

theorem binding_after {name : String} {r : Root} (h : s.bindings.lookup name = some r)
    (unnamed : e.bindingName? ≠ some name) : (s.after e).bindings.lookup name = some r := by
  cases e with
  | step step =>
    have heffect := effect_step s step
    rw [after]
    generalize s.step step = result at heffect
    cases heffect with
    | @binding _ as _ names _ =>
      have hne : name ≠ as := fun same ↦ unnamed (same ▸ names)
      rw [Json.lookup_cons_ite, if_neg hne]
      exact h
    | aside | install | snapshot | setUp => exact h
  | files | put => exact h

theorem snapshot_afterAll {events : List Event} {name : String}
    (h : s.snapshots.lookup name = some i) (unnamed : ∀ e ∈ events, e.snapshotName? ≠ some name) :
    (s.afterAll events).snapshots.lookup name = some i :=
  afterAll_invariant (·.snapshots.lookup name = some i) (fun _ _ ↦ snapshot_after) h unnamed

theorem binding_afterAll {events : List Event} {name : String} {r : Root}
    (h : s.bindings.lookup name = some r) (unnamed : ∀ e ∈ events, e.bindingName? ≠ some name) :
    (s.afterAll events).bindings.lookup name = some r :=
  afterAll_invariant (·.bindings.lookup name = some r) (fun _ _ ↦ binding_after) h unnamed

end Steps

/-- The cell of a session holds an instance, and whatever is asked of the cell goes by that instance
and by what it is loaded from. -/
structure Holds (s : Session) (i : Instance) (backing : Option Backing) : Prop where
  cell : s.cell = some ⟨i, backing⟩
  snap : ∀ as, s.step (.snap as) =
    (.holds i.schema, { s with snapshots := (as, i) :: s.snapshots })
  bind : ∀ root as, s.step (.bind root as) = s.bindRoot i.schema root as
  replace : ∀ openByDefault source schema, Blueprint.compile openByDefault source = .ok schema →
    s.step (.replace openByDefault source) =
      (.replaced i.schema schema, s.install ⟨⟨s.supply, schema⟩, backing⟩)
  put : ∀ c, s.cell = some c → ∀ j, c.replace j = (i, ⟨j, backing⟩)
  reload_none : backing = none → s.step .reload = (.reloaded false i.schema, s)
  reload_ok : ∀ b schema, backing = some b → b.compile s.workspace = .ok schema →
    s.step .reload = (.reloaded true schema, s.install ⟨⟨s.supply, schema⟩, some b⟩) ∧
      Cell.load s.workspace s.supply b = .ok ⟨⟨s.supply, schema⟩, some b⟩
  reload_error : ∀ b error, backing = some b → b.compile s.workspace = .error error →
    s.step .reload = (.notReloaded error i.schema, s) ∧
      ∀ serial, Cell.load s.workspace serial b = .error error

/-- What had a name in a session has it still, and answers by what it was. -/
structure Remembers (s t : Session) (between : List Event) : Prop where
  instances : ∀ name i, s.snapshots.lookup name = some i →
    (∀ e ∈ between, e.snapshotName? ≠ some name) →
    t.step (.recall name) = (.holds i.schema, t) ∧
      ∀ root as, t.step (.bindSnapshot name root as) = t.bindRoot i.schema root as
  roots : ∀ name r, s.bindings.lookup name = some r →
    (∀ e ∈ between, e.bindingName? ≠ some name) →
    ∀ document, t.step (.check name document) = (.checked (r.validateText document), t)

theorem holds_of_cell {s : Session} {i : Instance} {backing : Option Backing}
    (held : s.cell = some ⟨i, backing⟩) : s.Holds i backing where
  cell := held
  snap as := by rw [step, held]
  bind root as := by rw [step, held]
  replace openByDefault source schema compiled := by
    simp only [step, held, compiled, Cell.replace]
  put c hc j := by
    obtain rfl := Option.some.inj (held.symm.trans hc)
    rfl
  reload_none nowhere := by
    rw [step, held]
    exact reloadCell_of_no_backing nowhere
  reload_ok b schema backed compiled := by
    rw [step, held, Cell.load, compiled]
    refine ⟨?_, rfl⟩
    rw [backed]
    exact reloadCell_of_ok rfl compiled
  reload_error b error backed failed := by
    constructor
    · rw [step, held]
      exact reloadCell_of_error backed failed
    · intro serial
      rw [Cell.load, failed]
      rfl

theorem remembers_afterAll (s : Session) (between : List Event) :
    s.Remembers (s.afterAll between) between := by
  constructor
  case instances =>
    intro name i h unnamed
    have hlater := snapshot_afterAll h unnamed
    exact ⟨by rw [step, hlater], fun root as ↦ by rw [step, hlater]⟩
  case roots =>
    intro name r h unnamed document
    rw [step, binding_afterAll h unnamed]

/-- After any course of events a cell holds the instance that was put into it last, and works from
the file that it was first loaded from. What was named on the way is still what it was, whatever
happens later. -/
theorem cell_holds_latest {s : Session} {c : Cell} {first : Instance} {backing : Option Backing}
    {events : List Event} (begins : c.Begins first backing) (held : s.cell = some c)
    (keeps : ∀ e ∈ events, e.keepsCell = true) :
    (s.afterAll events).Holds (s.latest first events) backing ∧
      ∀ later, (s.afterAll events).Remembers (s.afterAll (events ++ later)) later := by
  obtain rfl := begins.eq
  refine ⟨holds_of_cell (cell_afterAll held keeps), fun later ↦ ?_⟩
  rw [afterAll_append]
  exact remembers_afterAll _ later

end Course

def noteText (renamed : Bool) : String :=
  if renamed then "root Note \x7bz: number\x7d" else "root Note \x7bx: number\x7d"

def noteSchema (renamed : Bool) : Schema where
  origin := "note.jbp"
  types := [⟨"Note", [⟨if renamed then "z" else "x", .scalar ⟨.number, .none⟩, true, none⟩],
    false, false⟩]
  roots := [("Note", 0)]

def noteWorkspace (renamed : Bool) : Workspace where
  top := .directory [
    ("note.jbp", .file ((noteText renamed).toList.map fun c ↦ UInt8.ofNat c.toNat))]
  current := []

def noteBacking : Backing := ⟨"note.jbp", true⟩

theorem readText_noteWorkspace (renamed : Bool) :
    (noteWorkspace renamed).readText "note.jbp" = .ok (noteText renamed) := by
  cases renamed <;> decide +kernel

theorem compile_noteWorkspace [PatternEngine] (renamed : Bool) :
    noteBacking.compile (noteWorkspace renamed) = .ok (noteSchema renamed) := by
  rw [Backing.compile, Blueprint.compileFile, noteBacking, Source.ofFile, readText_noteWorkspace]
  cases renamed <;> rfl

theorem compile_noteBacking_empty [PatternEngine] :
    noteBacking.compile .empty = .error (.unreadable "note.jbp" .notFound) := by
  rfl

/-- A cell loaded from a file is given another instance, then its file changes and it is reloaded,
then the file is gone and it is reloaded again. -/
theorem cell_holds_latest_note :
    let first : Instance := ⟨0, noteSchema false⟩
    let c : Cell := ⟨first, some noteBacking⟩
    let s : Session := ⟨noteWorkspace false, some c, [], [], 1⟩
    let events : List Event := [.step (.snap "first"), .put ⟨7, ⟨"memory", [], []⟩⟩,
      .files (noteWorkspace true), .step .reload, .files .empty, .step .reload]
    (c.Begins first (some noteBacking) ∧ s.cell = some c ∧ ∀ e ∈ events, e.keepsCell = true) ∧
    s.latest first events = ⟨1, noteSchema true⟩ ∧
    (s.afterAll events).Holds ⟨1, noteSchema true⟩ (some noteBacking) ∧
    (s.afterAll events).step (.recall "first") =
      (.holds (noteSchema false), s.afterAll events) := by
  intro first c s events
  have hbegins : c.Begins first (some noteBacking) := by
    refine .load (compile_noteWorkspace false) ?_
    rw [Cell.load, compile_noteWorkspace]
    rfl
  have hkeeps : ∀ e ∈ events, e.keepsCell = true := by simp [events, Event.keepsCell]
  let memory : Instance := ⟨7, ⟨"memory", [], []⟩⟩
  let t : Session :=
    ⟨noteWorkspace true, some ⟨memory, some noteBacking⟩, [("first", first)], [], 1⟩
  let t' : Session :=
    ⟨.empty, some ⟨⟨1, noteSchema true⟩, some noteBacking⟩, [("first", first)], [], 2⟩
  have ht : t.Holds memory (some noteBacking) := holds_of_cell rfl
  have ht' : t'.Holds ⟨1, noteSchema true⟩ (some noteBacking) := holds_of_cell rfl
  have hreload : t.step .reload =
      (.reloaded true (noteSchema true), { t' with workspace := noteWorkspace true }) :=
    (ht.reload_ok noteBacking _ rfl (compile_noteWorkspace true)).1
  have hfailed : t'.step .reload =
      (.notReloaded (.unreadable "note.jbp" .notFound) (noteSchema true), t') :=
    (ht'.reload_error noteBacking _ rfl compile_noteBacking_empty).1
  have hlatest : s.latest first events = ⟨1, noteSchema true⟩ :=
    calc
      _ = (t.step .reload).2.latest (((t.step .reload).1.installed? 1).getD memory)
          [.files .empty, .step .reload] := rfl
      _ = t'.latest ⟨1, noteSchema true⟩ [.step .reload] := by rw [hreload]; rfl
      _ = ((t'.step .reload).1.installed? 2).getD ⟨1, noteSchema true⟩ := rfl
      _ = ⟨1, noteSchema true⟩ := by rw [hfailed]; rfl
  have held : s.cell = some c := rfl
  have hholds := (cell_holds_latest hbegins held hkeeps).1
  rw [hlatest] at hholds
  have hkeeps_snap : ∀ e ∈ events.take 1, e.keepsCell = true :=
    fun e he ↦ hkeeps e (List.mem_of_mem_take he)
  have hremembers := (cell_holds_latest hbegins held hkeeps_snap).2 (events.drop 1)
  rw [List.take_append_drop] at hremembers
  have hunnamed : ∀ e ∈ events.drop 1, e.snapshotName? ≠ some "first" := by
    simp [events, Event.snapshotName?]
  have hrecall := (hremembers.instances "first" first rfl hunnamed).1
  exact ⟨⟨hbegins, held, hkeeps⟩, hlatest, hholds, hrecall⟩

end Session

end DocumentSchema
