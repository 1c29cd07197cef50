import DocumentSchema.Pattern
import DocumentSchema.Pattern.Reader

namespace DocumentSchema.Pattern

/-- The engine of the program, which reads a source as an expression. -/
instance expressionEngine : PatternEngine where
  search source :=
    match Expression.ofText? source.toList with
    | some e => .ok fun text ↦ e.isFoundIn text.toList.toArray
    | none => .error "not an expression, or too large a one"

end DocumentSchema.Pattern
