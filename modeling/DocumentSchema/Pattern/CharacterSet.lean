import DocumentSchema.Text.Alphabetic
import DocumentSchema.Text.Blank
import DocumentSchema.Text.CaseOrbit
import DocumentSchema.Text.Category.Letter
import DocumentSchema.Text.Category.Mark
import DocumentSchema.Text.Category.Other
import DocumentSchema.Text.Category.Punctuation
import DocumentSchema.Text.Category.Separator
import DocumentSchema.Text.Category.Symbol
import DocumentSchema.Text.GraphemeExtend
import DocumentSchema.Text.Numeric
import DocumentSchema.Text.Property
import DocumentSchema.Text.Script

namespace DocumentSchema.Pattern

open Text

inductive CharacterSet where
  | ranges (ranges : Ranges)
  | union (a b : CharacterSet)
  | intersection (a b : CharacterSet)
  | complement (a : CharacterSet)
  | caseClosed (a : CharacterSet)
  | asciiCaseClosed (a : CharacterSet)

namespace CharacterSet

/-- The ASCII letters that differ in case only from a code point, and the code point itself. -/
def asciiCaseOrbit (n : Nat) : List Nat :=
  if 0x41 ≤ n && n ≤ 0x5A then [n, n + 0x20]
  else if 0x61 ≤ n && n ≤ 0x7A then [n - 0x20, n]
  else [n]

def contains : CharacterSet → Nat → Bool
  | ranges r, n => r.contains n
  | union a b, n => a.contains n || b.contains n
  | intersection a b, n => a.contains n && b.contains n
  | complement a, n => !a.contains n
  | caseClosed a, n => (caseOrbit n).any a.contains
  | asciiCaseClosed a, n => (asciiCaseOrbit n).any a.contains

/-- How many ranges the expression names, a measure of the size of a matcher for it. -/
def weight : CharacterSet → Nat
  | ranges r => r.length
  | union a b | intersection a b => a.weight + b.weight
  | complement a => a.weight + 1
  | caseClosed a | asciiCaseClosed a => 2 * a.weight

def empty : CharacterSet := ranges []

def all : CharacterSet := ranges [(0, 0x10FFFF)]

def single (c : Char) : CharacterSet := ranges [(c.toNat, c.toNat)]

def difference (a b : CharacterSet) : CharacterSet := intersection a (complement b)

def symmetricDifference (a b : CharacterSet) : CharacterSet := union (difference a b) (difference b a)

def anyOf (sets : List Ranges) : CharacterSet := sets.foldr (fun r s ↦ union (ranges r) s) empty

def negatedIf (negated : Bool) (s : CharacterSet) : CharacterSet :=
  if negated then complement s else s

def letter : CharacterSet :=
  anyOf [Category.uppercaseLetters, Category.lowercaseLetters, Category.titlecaseLetters,
    Category.modifierLetters, Category.otherLetters]

def mark : CharacterSet :=
  anyOf [Category.nonspacingMarks, Category.spacingMarks, Category.enclosingMarks]

def number : CharacterSet := anyOf [decimalDigits, letterNumbers, otherNumbers]

def punctuation : CharacterSet :=
  anyOf [Category.connectors, Category.dashes, Category.openings, Category.closings,
    Category.initialQuotes, Category.finalQuotes, Category.otherPunctuation]

def symbol : CharacterSet :=
  anyOf [Category.mathSymbols, Category.currencySymbols, Category.modifierSymbols,
    Category.otherSymbols]

def separator : CharacterSet :=
  anyOf [Category.spaceSeparators, Category.lineSeparators, Category.paragraphSeparators]

def unassigned : CharacterSet :=
  complement (union letter (union mark (union number (union punctuation (union symbol
    (union separator (anyOf [Category.controls, Category.formats, Category.privateUse])))))))

def ascii : CharacterSet := ranges [(0, 0x7F)]

/-- The characters of words: letters and what else is alphabetic, marks, digits, connectors and the
two joiners. -/
def word : CharacterSet :=
  union (anyOf [alphabetic, decimalDigits, Category.connectors, Property.joinControl]) mark

def asciiWord : CharacterSet := ranges [(0x30, 0x39), (0x41, 0x5A), (0x5F, 0x5F), (0x61, 0x7A)]

def digit : CharacterSet := ranges decimalDigits

def asciiDigit : CharacterSet := ranges [(0x30, 0x39)]

def space : CharacterSet := ranges blank

def asciiSpace : CharacterSet := ranges [(0x09, 0x0D), (0x20, 0x20)]

def uppercase : CharacterSet := anyOf [Category.uppercaseLetters, Property.otherUppercase]

def lowercase : CharacterSet := anyOf [Category.lowercaseLetters, Property.otherLowercase]

def identifierStart : CharacterSet :=
  difference
    (union letter (anyOf [letterNumbers,
      [(0x1885, 0x1886), (0x2118, 0x2118), (0x212E, 0x212E), (0x309B, 0x309C)]]))
    (ranges [(0x2E2F, 0x2E2F)])

def identifierContinue : CharacterSet :=
  union identifierStart (anyOf [Category.nonspacingMarks, Category.spacingMarks, decimalDigits,
    Category.connectors, [(0xB7, 0xB7), (0x387, 0x387), (0x1369, 0x1371), (0x19DA, 0x19DA),
      (0x200C, 0x200D), (0x30FB, 0x30FB), (0xFF65, 0xFF65)]])

def unstableIdentifier : CharacterSet :=
  ranges [(0x37A, 0x37A), (0x309B, 0x309C), (0xFC5E, 0xFC63), (0xFDFA, 0xFDFB), (0xFE70, 0xFE70),
    (0xFE72, 0xFE72), (0xFE74, 0xFE74), (0xFE76, 0xFE76), (0xFE78, 0xFE78), (0xFE7A, 0xFE7A),
    (0xFE7C, 0xFE7C), (0xFE7E, 0xFE7E)]

def stableIdentifierStart : CharacterSet :=
  difference identifierStart (union unstableIdentifier
    (ranges [(0xE33, 0xE33), (0xEB3, 0xEB3), (0xFF9E, 0xFF9F)]))

def graphemeBase : CharacterSet :=
  complement (union unassigned (anyOf [Category.controls, Category.formats, Category.privateUse,
    Category.lineSeparators, Category.paragraphSeparators, graphemeExtend]))

/-- The general categories under their names, in lower case and without separators. -/
def categories : List (List String × CharacterSet) :=
  [(["any"], all), (["ascii"], ascii), (["assigned"], complement unassigned),
    (["c", "other"],
      union unassigned (anyOf [Category.controls, Category.formats, Category.privateUse])),
    (["cc", "control", "cntrl"], ranges Category.controls),
    (["cf", "format"], ranges Category.formats),
    (["cn", "unassigned"], unassigned),
    (["co", "privateuse"], ranges Category.privateUse),
    (["l", "letter"], letter),
    (["lc", "casedletter"], anyOf [Category.uppercaseLetters, Category.lowercaseLetters,
      Category.titlecaseLetters]),
    (["lu", "uppercaseletter"], ranges Category.uppercaseLetters),
    (["ll", "lowercaseletter"], ranges Category.lowercaseLetters),
    (["lt", "titlecaseletter"], ranges Category.titlecaseLetters),
    (["lm", "modifierletter"], ranges Category.modifierLetters),
    (["lo", "otherletter"], ranges Category.otherLetters),
    (["m", "mark", "combiningmark"], mark),
    (["mn", "nonspacingmark"], ranges Category.nonspacingMarks),
    (["mc", "spacingmark"], ranges Category.spacingMarks),
    (["me", "enclosingmark"], ranges Category.enclosingMarks),
    (["n", "number"], number),
    (["nd", "decimalnumber", "digit"], digit),
    (["nl", "letternumber"], ranges letterNumbers),
    (["no", "othernumber"], ranges otherNumbers),
    (["p", "punctuation", "punct"], punctuation),
    (["pc", "connectorpunctuation"], ranges Category.connectors),
    (["pd", "dashpunctuation"], ranges Category.dashes),
    (["ps", "openpunctuation"], ranges Category.openings),
    (["pe", "closepunctuation"], ranges Category.closings),
    (["pi", "initialpunctuation"], ranges Category.initialQuotes),
    (["pf", "finalpunctuation"], ranges Category.finalQuotes),
    (["po", "otherpunctuation"], ranges Category.otherPunctuation),
    (["s", "symbol"], symbol),
    (["sm", "mathsymbol"], ranges Category.mathSymbols),
    (["sc", "currencysymbol"], ranges Category.currencySymbols),
    (["sk", "modifiersymbol"], ranges Category.modifierSymbols),
    (["so", "othersymbol"], ranges Category.otherSymbols),
    (["z", "separator"], separator),
    (["zs", "spaceseparator"], ranges Category.spaceSeparators),
    (["zl", "lineseparator"], ranges Category.lineSeparators),
    (["zp", "paragraphseparator"], ranges Category.paragraphSeparators)]

def scripts : List (List String × CharacterSet) := Script.named.map fun (names, r) ↦ (names, ranges r)

/-- The two-valued properties under their names, in lower case and without separators. -/
def properties : List (List String × CharacterSet) :=
  [(["alphabetic", "alpha"], ranges alphabetic), (["uppercase", "upper"], uppercase),
    (["lowercase", "lower"], lowercase), (["whitespace", "wspace", "space"], space),
    (["graphemeextend", "grext"], ranges graphemeExtend),
    (["graphemebase", "grbase"], graphemeBase),
    (["idstart", "ids"], identifierStart), (["idcontinue", "idc"], identifierContinue),
    (["xidstart", "xids"], stableIdentifierStart),
    (["xidcontinue", "xidc"], difference identifierContinue unstableIdentifier)] ++
  Property.named.map fun (names, r) ↦ (names, ranges r)

def find? (table : List (List String × CharacterSet)) (name : String) : Option CharacterSet :=
  (table.find? fun entry ↦ entry.1.contains name).map (·.2)

/-- Names are compared without case, blanks, hyphens and underscores, and without a leading `is`. -/
def normalized (name : List Char) : String :=
  let stripped := match name with
    | i :: s :: rest => if i.toLower = 'i' && s.toLower = 's' then rest else name
    | _ => name
  String.ofList ((stripped.filter fun c ↦ c.toNat < 0x80 && c ≠ ' ' && c ≠ '_' && c ≠ '-').map
    Char.toLower)

/-- The set that a name alone stands for: a property, else a category, else a script. Three short
names are the categories rather than properties. -/
def ofName? (name : List Char) : Option CharacterSet :=
  let name := normalized name
  let property := if name ∈ ["cf", "sc", "lc"] then none else find? properties name
  property.or ((find? categories name).or (find? scripts name))

/-- The set of the characters for which a property has a value. -/
def ofValue? (property value : List Char) : Option CharacterSet :=
  let value := normalized value
  if normalized property ∈ ["gc", "generalcategory"] then find? categories value
  else if normalized property ∈ ["sc", "script"] then find? scripts value
  else none

def asciiClasses : List (String × CharacterSet) :=
  [("alnum", ranges [(0x30, 0x39), (0x41, 0x5A), (0x61, 0x7A)]),
    ("alpha", ranges [(0x41, 0x5A), (0x61, 0x7A)]),
    ("ascii", ascii),
    ("blank", ranges [(0x09, 0x09), (0x20, 0x20)]),
    ("cntrl", ranges [(0x00, 0x1F), (0x7F, 0x7F)]),
    ("digit", asciiDigit),
    ("graph", ranges [(0x21, 0x7E)]),
    ("lower", ranges [(0x61, 0x7A)]),
    ("print", ranges [(0x20, 0x7E)]),
    ("punct", ranges [(0x21, 0x2F), (0x3A, 0x40), (0x5B, 0x60), (0x7B, 0x7E)]),
    ("space", asciiSpace),
    ("upper", ranges [(0x41, 0x5A)]),
    ("word", asciiWord),
    ("xdigit", ranges [(0x30, 0x39), (0x41, 0x46), (0x61, 0x66)])]

end CharacterSet

end DocumentSchema.Pattern
