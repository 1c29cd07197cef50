import DocumentSchema.Blueprint.File

namespace DocumentSchema

/-- A schema as one object among others: two are the same object exactly if they have the same serial
number. -/
structure Instance where
  serial : Nat
  schema : Schema

/-- Where the schema of a cell is loaded from, and how it is compiled. -/
structure Backing where
  path : String
  openByDefault : Bool
  deriving DecidableEq

structure Cell where
  current : Instance
  backing : Option Backing

namespace Backing

def compile [PatternEngine] (b : Backing) (w : Workspace) : Except Blueprint.CompileError Schema :=
  Blueprint.compileFile b.openByDefault w b.path

end Backing

namespace Cell

def new (i : Instance) : Cell := ⟨i, none⟩

variable [PatternEngine]

def load (w : Workspace) (serial : Nat) (b : Backing) : Except Blueprint.CompileError Cell :=
  (b.compile w).map fun schema ↦ ⟨⟨serial, schema⟩, some b⟩

def replace (c : Cell) (i : Instance) : Instance × Cell := (c.current, { c with current := i })

def reload (c : Cell) (w : Workspace) (serial : Nat) :
    Except Blueprint.CompileError (Option Cell) :=
  match c.backing with
  | none => .ok none
  | some b => (b.compile w).map fun schema ↦ some { c with current := ⟨serial, schema⟩ }

end Cell

end DocumentSchema
