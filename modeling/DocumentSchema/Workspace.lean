import DocumentSchema.Text.Split
import DocumentSchema.Text.Utf8
import DocumentSchema.Workspace.Fault
import DocumentSchema.Workspace.Node

namespace DocumentSchema

structure Workspace where
  top : Node
  current : List String

/-- Paths as the names between their slashes. -/
structure Route where
  absolute : Bool
  names : List String

namespace Route

def ofPath (path : String) : Route :=
  let (first, others) := Text.splitAt '/' path.toList
  let pieces := first :: others
  let closed := if !others.isEmpty && pieces.getLast?.any (·.isEmpty) then ["."] else []
  ⟨first.isEmpty && !others.isEmpty, (pieces.filter (!·.isEmpty)).map String.ofList ++ closed⟩

end Route

namespace Workspace

def empty : Workspace := ⟨.empty, []⟩

/-- One step down from a directory, or up to the one around it. The top is around itself. -/
def step (w : Workspace) (place : List String) (name : String) : Except FileFault (List String) :=
  match w.top.find? place with
  | none => .error .notFound
  | some (.file _) => .error .notDirectory
  | some (.directory entries) =>
    if name = "." then .ok place
    else if name = ".." then .ok place.dropLast
    else if 255 < name.utf8ByteSize then .error .nameTooLong
    else if (entries.lookup name).isSome then .ok (place ++ [name])
    else .error .notFound

def follow (w : Workspace) (r : Route) : Except FileFault (List String) :=
  r.names.foldlM w.step (if r.absolute then [] else w.current)

def locate (w : Workspace) (path : String) : Except FileFault (List String) :=
  if path.isEmpty then .error .notFound
  else if path.toList.contains '\x00' then .error .zeroInName
  else w.follow (.ofPath path)

def find (w : Workspace) (path : String) : Except FileFault Node :=
  (w.locate path).bind fun place ↦
    match w.top.find? place with
    | some node => .ok node
    | none => .error .notFound

def isDirectory (w : Workspace) (path : String) : Bool :=
  match w.find path with
  | .ok node => node.isDirectory
  | .error _ => false

def read (w : Workspace) (path : String) : Except FileFault (List UInt8) :=
  (w.find path).bind fun
    | .file content => .ok content
    | .directory _ => .error .isDirectory

def readText (w : Workspace) (path : String) : Except FileFault String :=
  (w.read path).bind fun content ↦
    match Text.Utf8.text? content with
    | some text => .ok text
    | none => .error .notText

def placeFor (w : Workspace) (path : String) : Except FileFault (List String) :=
  if path.isEmpty then .error .notFound
  else if path.toList.contains '\x00' then .error .zeroInName
  else
    let route := Route.ofPath path
    match route.names.getLast? with
    | none | some "." | some ".." => .error .isDirectory
    | some name => do
      let above ← w.follow ⟨route.absolute, route.names.dropLast⟩
      match w.top.find? above with
      | some (.directory _) =>
        if 255 < name.utf8ByteSize then .error .nameTooLong else .ok (above ++ [name])
      | some (.file _) => .error .notDirectory
      | none => .error .notFound

/-- Gives a file a content. The directory that it is in has to be there. -/
def write (w : Workspace) (path : String) (content : List UInt8) : Except FileFault Workspace := do
  let place ← w.placeFor path
  match w.top.find? place with
  | some (.directory _) => .error .isDirectory
  | _ => return { w with top := .put (.file content) w.top place }

def makeDirectories (w : Workspace) (path : String) : Except FileFault Workspace :=
  if path.isEmpty then .ok w
  else if path.toList.contains '\x00' then .error .zeroInName
  else
    let route := Route.ofPath path
    let make (made : Workspace × List String) (name : String) :
        Except FileFault (Workspace × List String) :=
      let (w, place) := made
      match w.step place name with
      | .ok next => .ok (w, next)
      | .error .notFound => .ok ({ w with top := .put .empty w.top (place ++ [name]) }, place ++ [name])
      | .error fault => .error fault
    do
      let (made, place) ← route.names.foldlM make (w, if route.absolute then [] else w.current)
      match made.top.find? place with
      | some (.file _) => .error .alreadyExists
      | _ => return made

def files (w : Workspace) : List (String × List UInt8) :=
  w.top.files.map fun (place, content) ↦ ("/".intercalate place, content)

def changes (before after : Workspace) : List (String × List UInt8) :=
  after.files.filter fun (path, content) ↦ before.files.lookup path ≠ some content

end Workspace

end DocumentSchema
