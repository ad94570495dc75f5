import DocQuery.Unicode.Property
import DocQuery.Unicode.Script

/-!
# Segmentation

The values by which Unicode 16 divides text into what is read as one
character, into words and into sentences. For each of the three a character
has one value, and the values are made of properties; where two of them would
claim a character, the definition of the later one leaves it out.

## Main definitions

* `Segmentation.grapheme`: The values for characters as they are read.
* `Segmentation.word`: The values for words.
* `Segmentation.sentence`: The values for sentences.
-/

namespace DocQuery

namespace Unicode

namespace Segmentation

/-- The characters that satisfy both of two definitions. -/
def both (d e : Definition) : Definition :=
  .butNot d (.butNot d e)

/-- The characters of some scripts, by their codes. -/
def scripts (codes : List String) : Definition :=
  (Script.all.filter fun s => codes.contains s.code).foldl (fun d s => .or d (.listed s.table))
    (.listed [])

/-- The characters that make or keep characters together without being seen. -/
def zeroWidth : Definition :=
  .listed ["200B-200D"]

/-- The character that joins others. -/
def joiner : Definition :=
  .listed ["200D"]

/-- The characters that stay with the one before them, when text is divided
    into characters. -/
def extending : Definition :=
  .butNot (.or .graphemeExtend .emojiModifier) joiner

/-- The characters that stay with the one after them. -/
def prepended : Definition :=
  .or .prependedConcatenationMark
    (.listed ["D4E 111C2-111C3 113D1 1193F 11941 11A3A 11A84-11A89 11D46 11F02"])

/-- The characters at which a character as it is read always ends. -/
def controlling : Definition :=
  .butNot
    (.or (.categories [.lineSeparator, .paragraphSeparator, .control])
      (.or (both (.categories [.unassigned]) .defaultIgnorable)
        (.butNot (.categories [.format])
          (.or (.or prepended extending) (.listed ["200C-200D"])))))
    (.listed ["A D"])

/-- The marks that take space of their own. -/
def spacing : Definition :=
  .butNot (.or (.categories [.spacingMark]) (.listed ["E33 EB3"]))
    (.or extending
      (.listed
        ["102B-102C 1038 1062-1064 1067-106D 1083 1087-108C 108F 109A-109C 1A61 1A63-1A64 AA7B",
         "AA7D 11720-11721"]))

/-- The syllables of Hangul. -/
def syllable : Definition :=
  .listed ["AC00-D7A3"]

/-- The syllables that have a first and a middle sound only. They are the
    first of 28 each, and the others have a last sound too. -/
def openSyllable : Definition :=
  .spread 0xAC00 28 399

/-- The values for characters as they are read, each under its short and its
    long name. -/
def grapheme : List (List String × Definition) :=
  [(["CN", "Control"], controlling),
   (["CR"], .listed ["D"]),
   (["EX", "Extend"], extending),
   (["L"], .listed ["1100-115F A960-A97C"]),
   (["LF"], .listed ["A"]),
   (["LV"], openSyllable),
   (["LVT"], .butNot syllable openSyllable),
   (["PP", "Prepend"], prepended),
   (["RI", "Regional_Indicator"], .regionalIndicator),
   (["SM", "SpacingMark"], spacing),
   (["T"], .listed ["11A8-11FF D7CB-D7FB"]),
   (["V"], .listed ["1160-11A7 D7B0-D7C6 16D63 16D67-16D6A"]),
   (["ZWJ"], joiner)]

/-- The characters that stay with the one before them, when text is divided
    into words. -/
def wordExtending : Definition :=
  .butNot
    (.or (.or .graphemeExtend .emojiModifier) (.categories [.spacingMark])) joiner

/-- Invisible characters that change how others look, without some that have
    another value. -/
def formatting (others : Definition) : Definition :=
  .butNot (.categories [.format]) (.or .prependedConcatenationMark others)

/-- The characters of numbers, marks that stand before numbers included. -/
def numeric (more : String) : Definition :=
  .or (.categories [.decimalNumber])
    (.or (.butNot .prependedConcatenationMark (.listed ["70F"])) (.listed [more]))

/-- The characters of Katakana words. -/
def katakana : Definition :=
  .or (scripts ["Kana"]) (.listed ["3031-3035 309B-309C 30A0 30FC FF70"])

/-- The letters of Hebrew. -/
def hebrewLetter : Definition :=
  both (scripts ["Hebr"]) (.categories [.otherLetter])

/-- The letters of scripts that put blanks between words. -/
def wordLetter : Definition :=
  .butNot
    (.or .alphabetic
      (.listed
        ["2C2-2C5 2D2-2D7 2DE-2DF 2E5-2EB 2ED 2EF-2FF 55A-55C 55E 58A 5F3 70F A708-A716",
         "A720-A721 A789-A78A AB5B"]))
    (.or (.or .ideographic (.or katakana (.or wordExtending hebrewLetter)))
      (scripts
        ["Thai", "Laoo", "Hira", "Mymr", "Khmr", "Tale", "Talu", "Lana", "Tavt", "Ahom"]))

/-- The values for words, each under its short and its long name. -/
def word : List (List String × Definition) :=
  [(["CR"], .listed ["D"]),
   (["DQ", "Double_Quote"], .listed ["22"]),
   (["EX", "ExtendNumLet"], .listed ["5F 202F 203F-2040 2054 FE33-FE34 FE4D-FE4F FF3F"]),
   (["Extend"], wordExtending),
   (["FO", "Format"], formatting (.or wordExtending zeroWidth)),
   (["HL", "Hebrew_Letter"], hebrewLetter),
   (["KA", "Katakana"], katakana),
   (["LE", "ALetter"], wordLetter),
   (["LF"], .listed ["A"]),
   (["MB", "MidNumLet"], .listed ["2E 2018-2019 2024 FE52 FF07 FF0E"]),
   (["ML", "MidLetter"], .listed ["3A B7 387 55F 5F4 2027 FE13 FE55 FF1A"]),
   (["MN", "MidNum"],
    .listed ["2C 3B 37E 589 60C-60D 66C 7F8 2044 FE10 FE14 FE50 FE54 FF0C FF1B"]),
   (["NL", "Newline"], .listed ["B-C 85 2028-2029"]),
   (["NU", "Numeric"], numeric "66B"),
   (["RI", "Regional_Indicator"], .regionalIndicator),
   (["SQ", "Single_Quote"], .listed ["27"]),
   (["WSegSpace"], .listed ["20 1680 2000-2006 2008-200A 205F 3000"]),
   (["ZWJ"], joiner)]

/-- The characters that stay with the one before them, when text is divided
    into sentences. -/
def sentenceExtending : Definition :=
  .or (.or .graphemeExtend (.categories [.spacingMark])) joiner

/-- Lower-case characters. Georgian letters have case but are not used so. -/
def sentenceLower : Definition :=
  .butNot .lowercase (.or sentenceExtending (.listed ["10D0-10FA 10FD-10FF"]))

/-- Upper-case characters. -/
def sentenceUpper : Definition :=
  .butNot (.or .uppercase (.categories [.titlecaseLetter])) (.listed ["1C90-1CBA 1CBD-1CBF"])

/-- Letters without case. -/
def sentenceLetter : Definition :=
  .butNot (.or .alphabetic (.listed ["5F3 70F"]))
    (.or sentenceLower (.or sentenceUpper sentenceExtending))

/-- The points that may also stand within a sentence. -/
def ambiguousEnd : Definition :=
  .listed ["2E 2024 FE52 FF0E"]

/-- Brackets and quotation marks. -/
def closing : Definition :=
  .or
    (.butNot
      (.or .quotationMark
        (.categories
          [.openPunctuation, .closePunctuation, .initialPunctuation, .finalPunctuation]))
      (.listed ["FF02 FF07"]))
    (.listed ["275B-2760 2E00-2E01 2E06-2E08 2E0B 1F676-1F678"])

/-- The values for sentences, each under its short and its long name. -/
def sentence : List (List String × Definition) :=
  [(["AT", "ATerm"], ambiguousEnd),
   (["CL", "Close"], closing),
   (["CR"], .listed ["D"]),
   (["EX", "Extend"], sentenceExtending),
   (["FO", "Format"], formatting sentenceExtending),
   (["LE", "OLetter"], sentenceLetter),
   (["LF"], .listed ["A"]),
   (["LO", "Lower"], sentenceLower),
   (["NU", "Numeric"], numeric "66B-66C"),
   (["SC", "SContinue"],
    .listed
      ["2C-2D 3A-3B 37E 55D 60C-60D 7F8 1802 1808 2013-2014 3001 FE10-FE11 FE13-FE14 FE31-FE32",
       "FE50-FE51 FE54-FE55 FE58 FE63 FF0C-FF0D FF1A-FF1B FF64"]),
   (["SE", "Sep"], .listed ["85 2028-2029"]),
   (["SP", "Sp"], .butNot .whiteSpace (.listed ["A D 85 2028-2029"])),
   (["ST", "STerm"], .butNot .sentenceTerminal ambiguousEnd),
   (["UP", "Upper"], sentenceUpper)]

end Segmentation

end Unicode

end DocQuery
