namespace DocumentSchema.Text

def splitAt (separator : Char) (text : List Char) : List Char × List (List Char) :=
  text.foldr (fun c (first, others) ↦
    if c = separator then ([], first :: others) else (c :: first, others)) ([], [])

def withoutReturn (line : List Char) : List Char :=
  if line.getLast? = some '\r' then line.dropLast else line

/-- The lines of a text. A line ends with a line feed or a carriage return and a line feed; after the
last of these, nothing is no line. -/
def lines (text : List Char) : List (List Char) :=
  let (first, others) := splitAt '\n' text
  let pieces := first :: others
  let last := (pieces.getLast?.filter (!·.isEmpty)).toList
  pieces.dropLast.map withoutReturn ++ last

end DocumentSchema.Text
