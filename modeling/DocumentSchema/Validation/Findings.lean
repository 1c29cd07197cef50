import DocumentSchema.Validation.Violation

namespace DocumentSchema.Validation

structure Findings where
  toList : List Finding
  ne_nil : toList ≠ []
  deriving DecidableEq

namespace Findings

def single (f : Finding) : Findings := ⟨[f], by simp⟩

def first (f : Findings) : Finding := f.toList.head f.ne_nil

def count (f : Findings) : Nat := f.toList.length

/-- One finding a line. -/
def message (f : Findings) : String := "\n".intercalate (f.toList.map Finding.message)

end Findings

end DocumentSchema.Validation
