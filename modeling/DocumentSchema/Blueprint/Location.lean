namespace DocumentSchema.Blueprint

structure Location where
  line : Nat
  column : Nat
  deriving DecidableEq

namespace Location

def start : Location := ⟨1, 1⟩

def nowhere : Location := ⟨0, 0⟩

def after (l : Location) (c : Char) : Location :=
  if c = '\n' then ⟨l.line + 1, 1⟩ else ⟨l.line, l.column + 1⟩

instance : ToString Location := ⟨fun l ↦ s!"{l.line}:{l.column}"⟩

end Location

/-- A part of a blueprint and the place of its first character. -/
structure Located (α : Type) where
  value : α
  location : Location
  deriving DecidableEq

end DocumentSchema.Blueprint
