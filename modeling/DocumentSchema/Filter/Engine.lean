import DocumentSchema.Filter
import DocumentSchema.Filter.Evaluation

namespace DocumentSchema.Filter

/-- The engine of the program. -/
instance termEngine : FilterEngine := ⟨run⟩

end DocumentSchema.Filter
