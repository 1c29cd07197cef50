import DocumentSchema.Blueprint.Parser
import DocumentSchema.Blueprint.Resolution
import DocumentSchema.Blueprint.Token.Lexer

namespace DocumentSchema.Blueprint

/-- A text and the file or label that it comes from. -/
structure Source where
  origin : String
  text : String
  deriving DecidableEq

def itemsOf (text : String) : Resolved (List Item) :=
  ((tokenize text.toList).bind parse).mapError fun f ↦ ⟨.form f.value, f.location⟩

variable [PatternEngine]

def compile (openByDefault : Bool) (source : Source) : Except CompileError Schema :=
  ((itemsOf source.text).bind (resolve source.origin openByDefault)).mapError (.faulty source.origin)

end DocumentSchema.Blueprint
