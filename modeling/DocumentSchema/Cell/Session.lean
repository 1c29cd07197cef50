import DocumentSchema.Cell
import DocumentSchema.Root

namespace DocumentSchema

structure Session where
  workspace : Workspace
  cell : Option Cell
  snapshots : List (String × Instance)
  bindings : List (String × Root)
  supply : Nat

namespace Session

open Blueprint (CompileError Source)
open Validation (Finding)
open Json (Value)

def start : Session := ⟨.empty, none, [], [], 0⟩

inductive Step where
  | write (file : String) (content : List UInt8)
  | remove (file : String)
  | makeDirectory (file : String)
  | compile (file : String)
  | load (backing : Backing)
  | new (openByDefault : Bool) (source : Source)
  | replace (openByDefault : Bool) (source : Source)
  | reload
  | snap (as : String)
  | recall (snapshot : String)
  | same (a b : String)
  | bind (root as : String)
  | bindSnapshot (snapshot root as : String)
  | check (binding : String) (document : List UInt8)

inductive Reply where
  | written
  | removed
  | made
  | compiled (schema : Schema)
  | holds (schema : Schema)
  | replaced (displaced now : Schema)
  | reloaded (changed : Bool) (now : Schema)
  | notReloaded (error : CompileError) (now : Schema)
  | same (yes : Bool)
  | bound (root : Root)
  | checked (result : Except Finding Value)
  | notCompiled (error : CompileError)
  | noRoot (unknown : UnknownRoot)
  | noCell
  | noSnapshot
  | noBinding

/-- The place of a file that a session writes, taken as if all directories were there. -/
def placeOf (file : String) : List String := (Route.ofPath file).names

def edit (s : Session) (f : Node → Node) : Session :=
  { s with workspace := { s.workspace with top := f s.workspace.top } }

def putUnless (stays : Node → Bool) (new : Node) (place : List String) (top : Node) : Node :=
  if (top.find? place).any stays then top else .put new top place

/-- Puts a new cell or a changed one in place. Its instance has taken the next number. -/
def install (s : Session) (c : Cell) : Session := { s with cell := some c, supply := s.supply + 1 }

def bindRoot (s : Session) (schema : Schema) (root as : String) : Reply × Session :=
  match schema.root root with
  | .ok r => (.bound r, { s with bindings := (as, r) :: s.bindings })
  | .error unknown => (.noRoot unknown, s)

variable [PatternEngine]

def reloadCell (s : Session) (c : Cell) : Reply × Session :=
  match c.reload s.workspace s.supply with
  | .ok none => (.reloaded false c.current.schema, s)
  | .ok (some next) => (.reloaded true next.current.schema, s.install next)
  | .error e => (.notReloaded e c.current.schema, s)

def step (s : Session) : Step → Reply × Session
  | .write file content =>
    (.written, s.edit (putUnless Node.isDirectory (.file content) (placeOf file)))
  | .remove file => (.removed, s.edit (.remove · (placeOf file)))
  | .makeDirectory file => (.made, s.edit (putUnless (fun _ ↦ true) .empty (placeOf file)))
  | .compile file =>
    match Blueprint.compileFile false s.workspace file with
    | .ok schema => (.compiled schema, s)
    | .error e => (.notCompiled e, s)
  | .load backing =>
    match Cell.load s.workspace s.supply backing with
    | .ok c => (.holds c.current.schema, s.install c)
    | .error e => (.notCompiled e, s)
  | .new openByDefault source =>
    match Blueprint.compile openByDefault source with
    | .ok schema => (.holds schema, s.install (.new ⟨s.supply, schema⟩))
    | .error e => (.notCompiled e, s)
  | .replace openByDefault source =>
    match s.cell with
    | none => (.noCell, s)
    | some c =>
      match Blueprint.compile openByDefault source with
      | .ok schema =>
        let (displaced, next) := c.replace ⟨s.supply, schema⟩
        (.replaced displaced.schema schema, s.install next)
      | .error e => (.notCompiled e, s)
  | .reload =>
    match s.cell with
    | none => (.noCell, s)
    | some c => s.reloadCell c
  | .snap as =>
    match s.cell with
    | none => (.noCell, s)
    | some c => (.holds c.current.schema, { s with snapshots := (as, c.current) :: s.snapshots })
  | .recall snapshot =>
    match s.snapshots.lookup snapshot with
    | none => (.noSnapshot, s)
    | some i => (.holds i.schema, s)
  | .same a b =>
    match s.snapshots.lookup a, s.snapshots.lookup b with
    | some i, some j => (.same (i.serial == j.serial), s)
    | _, _ => (.noSnapshot, s)
  | .bind root as =>
    match s.cell with
    | none => (.noCell, s)
    | some c => s.bindRoot c.current.schema root as
  | .bindSnapshot snapshot root as =>
    match s.snapshots.lookup snapshot with
    | none => (.noSnapshot, s)
    | some i => s.bindRoot i.schema root as
  | .check binding document =>
    match s.bindings.lookup binding with
    | none => (.noBinding, s)
    | some r => (.checked (r.validateText document), s)

def run (s : Session) : List Step → List Reply × Session
  | [] => ([], s)
  | step :: rest =>
    let (reply, next) := s.step step
    let (replies, last) := next.run rest
    (reply :: replies, last)

end Session

end DocumentSchema
