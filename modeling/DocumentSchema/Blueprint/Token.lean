import DocumentSchema.Blueprint.Location
import DocumentSchema.Json.Number
import DocumentSchema.Text.Quoted

namespace DocumentSchema.Blueprint

inductive Punctuation where
  | openBrace
  | closeBrace
  | openBracket
  | closeBracket
  | openParenthesis
  | closeParenthesis
  | colon
  | comma
  | equals
  | semicolon
  deriving DecidableEq

namespace Punctuation

def char : Punctuation → Char
  | openBrace => '\x7b'
  | closeBrace => '\x7d'
  | openBracket => '['
  | closeBracket => ']'
  | openParenthesis => '('
  | closeParenthesis => ')'
  | colon => ':'
  | comma => ','
  | equals => '='
  | semicolon => ';'

def all : List Punctuation :=
  [openBrace, closeBrace, openBracket, closeBracket, openParenthesis, closeParenthesis, colon,
    comma, equals, semicolon]

def ofChar? (c : Char) : Option Punctuation := all.find? (·.char = c)

theorem ofChar?_char (p : Punctuation) : ofChar? p.char = some p := by cases p <;> rfl

end Punctuation

inductive Token where
  | word (text : String)
  | string (content : String)
  | number (value : Json.Number)
  | punctuation (mark : Punctuation)
  | endOfInput
  deriving DecidableEq

/-- How a message names a token. -/
def Token.description : Token → String
  | .word text => s!"`{text}`"
  | .string content => s!"string {String.ofList (Text.quotedString content.toList)}"
  | .number n => s!"number {n}"
  | .punctuation p => s!"`{p.char}`"
  | .endOfInput => "end of input"

end DocumentSchema.Blueprint
