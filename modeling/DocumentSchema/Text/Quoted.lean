import DocumentSchema.Text.GraphemeExtend
import DocumentSchema.Text.Unprintable

namespace DocumentSchema.Text

/-- How a character stands inside quotes of one kind; the quote itself gets a backslash. -/
def escapeIn (quote c : Char) : List Char :=
  if c = '\x00' then ['\\', '0']
  else if c = '\t' then ['\\', 't']
  else if c = '\r' then ['\\', 'r']
  else if c = '\n' then ['\\', 'n']
  else if c = '\\' || c = quote then ['\\', c]
  else if extendsGrapheme c || isUnprintable c then
    '\\' :: 'u' :: '\x7b' :: Nat.toDigits 16 c.toNat ++ ['\x7d']
  else [c]

def quotedString (s : List Char) : List Char := '"' :: s.flatMap (escapeIn '"') ++ ['"']

def quotedChar (c : Char) : List Char := '\x27' :: escapeIn '\x27' c ++ ['\x27']

end DocumentSchema.Text
