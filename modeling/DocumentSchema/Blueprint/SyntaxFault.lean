import DocumentSchema.Blueprint.Token

namespace DocumentSchema.Blueprint

/-- What the grammar asks for at a token. -/
inductive Expectation where
  | declaration
  | typeName
  | rootName
  | rootBody
  | field
  | type
  | constraintName
  | literal
  | constraintEnd
  | mark (punctuation : Punctuation)
  deriving DecidableEq

def Expectation.description : Expectation → String
  | .declaration => "`type` or `root`"
  | .typeName => "a type name"
  | .rootName => "a root type name"
  | .rootBody => "`\x7b` after an open/closed root"
  | .field => "a field name or `\x7d`"
  | .type => "a type"
  | .constraintName => "a constraint name"
  | .literal => "a literal"
  | .constraintEnd => "`,` or `)`"
  | .mark p => (Token.punctuation p).description

inductive SyntaxFault where
  | unexpectedCharacter (c : Char)
  | unterminatedComment
  | invalidNumber (text : String)
  | invalidEscape (c : Char)
  | unterminatedString
  | unexpected (expected : Expectation) (found : Token)
  | tooDeep
  | reservedName (name : String)
  deriving DecidableEq

def nestingLimit : Nat := 128

def SyntaxFault.message : SyntaxFault → String
  | .unexpectedCharacter c => s!"unexpected character {String.ofList (Text.quotedChar c)}"
  | .unterminatedComment => "unterminated block comment"
  | .invalidNumber text => s!"invalid number literal `{text}`"
  | .invalidEscape c => "invalid escape sequence \\" ++ String.singleton c
  | .unterminatedString => "unterminated string"
  | .unexpected expected found => s!"expected {expected.description}, found {found.description}"
  | .tooDeep => s!"nested too deeply (limit {nestingLimit})"
  | .reservedName name => s!"`{name}` is a reserved type name"

end DocumentSchema.Blueprint
