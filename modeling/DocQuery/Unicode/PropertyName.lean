import DocQuery.Unicode.Age
import DocQuery.Unicode.ScriptExtension
import DocQuery.Unicode.Segmentation

/-!
# Names of Properties

Sets of characters by the names of properties and of their values. Names are
compared loosely: case, blanks, hyphens and low lines do not matter, and
neither does a leading "is". A category and a script may be named without
saying that it is one.

## Main definitions

* `PropertyName.plain`: A name without what does not matter.
* `PropertyName.category?`, `script?`: The values that have a name.
* `PropertyName.ranges?`: The characters that have a property.
* `PropertyName.valueRanges?`: The characters with a value of a property.
-/

namespace DocQuery

namespace Unicode

namespace PropertyName

/-- The letters, digits and signs of a name that matter. -/
def kept (s : List Char) : List Char :=
  (s.filter fun c => c.toNat < 128 && c != ' ' && c != '_' && c != '-').map Char.toLower

/-- A name without what does not matter. -/
def plain (s : List Char) : String :=
  String.ofList <| match s with
    | i :: j :: rest =>
      if i.toLower = 'i' && j.toLower = 's' then
        -- A single c after it belongs to an abbreviation of three letters.
        if kept rest = ['c'] then ['i', 's', 'c'] else kept rest
      else kept s
    | s => kept s

/-- Is a plain name one of these, up to what does not matter? -/
def isOneOf (name : String) (names : List String) : Bool :=
  names.any fun other => plain other.toList == name

/-- The categories and groups of categories, under all names they have. -/
def categories : List (List String × List Category) :=
  [(["Lu", "Uppercase_Letter"], [.uppercaseLetter]),
   (["Ll", "Lowercase_Letter"], [.lowercaseLetter]),
   (["Lt", "Titlecase_Letter"], [.titlecaseLetter]),
   (["LC", "Cased_Letter"], [.uppercaseLetter, .lowercaseLetter, .titlecaseLetter]),
   (["Lm", "Modifier_Letter"], [.modifierLetter]),
   (["Lo", "Other_Letter"], [.otherLetter]),
   (["L", "Letter"],
    [.uppercaseLetter, .lowercaseLetter, .titlecaseLetter, .modifierLetter, .otherLetter]),
   (["Mn", "Nonspacing_Mark"], [.nonspacingMark]),
   (["Mc", "Spacing_Mark"], [.spacingMark]),
   (["Me", "Enclosing_Mark"], [.enclosingMark]),
   (["M", "Mark", "Combining_Mark"], [.nonspacingMark, .spacingMark, .enclosingMark]),
   (["Nd", "Decimal_Number", "digit"], [.decimalNumber]),
   (["Nl", "Letter_Number"], [.letterNumber]),
   (["No", "Other_Number"], [.otherNumber]),
   (["N", "Number"], [.decimalNumber, .letterNumber, .otherNumber]),
   (["Pc", "Connector_Punctuation"], [.connectorPunctuation]),
   (["Pd", "Dash_Punctuation"], [.dashPunctuation]),
   (["Ps", "Open_Punctuation"], [.openPunctuation]),
   (["Pe", "Close_Punctuation"], [.closePunctuation]),
   (["Pi", "Initial_Punctuation"], [.initialPunctuation]),
   (["Pf", "Final_Punctuation"], [.finalPunctuation]),
   (["Po", "Other_Punctuation"], [.otherPunctuation]),
   (["P", "Punctuation", "punct"],
    [.connectorPunctuation, .dashPunctuation, .openPunctuation, .closePunctuation,
     .initialPunctuation, .finalPunctuation, .otherPunctuation]),
   (["Sm", "Math_Symbol"], [.mathSymbol]),
   (["Sc", "Currency_Symbol"], [.currencySymbol]),
   (["Sk", "Modifier_Symbol"], [.modifierSymbol]),
   (["So", "Other_Symbol"], [.otherSymbol]),
   (["S", "Symbol"], [.mathSymbol, .currencySymbol, .modifierSymbol, .otherSymbol]),
   (["Zs", "Space_Separator"], [.spaceSeparator]),
   (["Zl", "Line_Separator"], [.lineSeparator]),
   (["Zp", "Paragraph_Separator"], [.paragraphSeparator]),
   (["Z", "Separator"], [.spaceSeparator, .lineSeparator, .paragraphSeparator]),
   (["Cc", "Control", "cntrl"], [.control]),
   (["Cf", "Format"], [.format]),
   (["Co", "Private_Use"], [.privateUse]),
   (["Cn", "Unassigned"], [.unassigned]),
   (["C", "Other"], [.control, .format, .privateUse, .unassigned]),
   (["Assigned"], Category.assigned),
   (["Any"], .unassigned :: Category.assigned)]

/-- The characters of the category or group of categories with a plain
    name. -/
def category? (name : String) : Option Ranges :=
  if name = "ascii" then some [(0, 127)]
  else (categories.find? fun c => isOneOf name c.1).map fun c => Category.rangesOf c.2

/-- The script with a plain name or a plain code. -/
def script? (name : String) : Option Script :=
  let current := Script.formerCodes.find? fun c => isOneOf name [c.1]
  let name := (current.map fun c => plain c.2.toList).getD name
  Script.all.find? fun s => isOneOf name [s.code, s.name]

/-- The characters with a value that has a plain name. -/
def listed? (name : String) (values : List (List String × Definition)) : Option Ranges :=
  (values.find? fun v => isOneOf name v.1).map fun v => v.2.ranges

/-- The names of a version. -/
def versionNames (version : String) : List String :=
  [version, String.ofList ('v' :: version.toList.filter (· != '.'))]

/-- The characters that have a property. Two short names of categories are
    also short names of properties that are not among these. -/
def ranges? (name : List Char) : Option Ranges :=
  let name := plain name
  listed? name Definition.named <|> category? name <|> (script? name).map Script.ranges

/-- The characters with a value of a property. -/
def valueRanges? (name value : List Char) : Option Ranges :=
  let name := plain name
  let value := plain value
  if isOneOf name ["gc", "General_Category"] then category? value
  else if isOneOf name ["sc", "Script"] then (script? value).map Script.ranges
  else if isOneOf name ["scx", "Script_Extensions"] then (script? value).map Script.extended
  else if isOneOf name ["Age"] then
    Age.upTo (fun version => isOneOf value (versionNames version)) Age.versions
  else if isOneOf name ["GCB", "Grapheme_Cluster_Break"] then listed? value Segmentation.grapheme
  else if isOneOf name ["WB", "Word_Break"] then listed? value Segmentation.word
  else if isOneOf name ["SB", "Sentence_Break"] then listed? value Segmentation.sentence
  else none

end PropertyName

end Unicode

end DocQuery
