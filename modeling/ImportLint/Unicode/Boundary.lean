import ImportLint.Unicode.Property
import ImportLint.Unicode.Script

/-!
# Boundaries in a text

The classes of code points by which a text is split into what a reader takes for characters, into words and into
sentences. They are put together from categories, properties and scripts with short lists of exceptions.
-/

namespace ImportLint.Unicode

open Category Property

/-! ## Characters -/

/-- What extends the character before it. -/
def extendSet : CodeSet := .union (Property.set .graphemeExtend) (Property.set .emojiModifier)

/-- Controls, breaks of lines, formats, and code points that are ignored though none is assigned to them. -/
def controlSet : CodeSet :=
  .diff
    (.union (setOf [.lineSeparator, .paragraphSeparator, .control, .format])
      (.inter (Category.set .unassigned) (Property.set .defaultIgnorableCodePoint)))
    (.unionAll [.table (.ofText "A D 200D"), Property.set .prependedConcatenationMark, extendSet])

/-- Marks with a width of their own and two vowels that behave like them. -/
def spacingMarkSet : CodeSet :=
  .diff (.union (Category.set .spacingMark) (.table (.ofText "E33 EB3")))
    (.union extendSet (.table (.ofText
      "102B-102C 1038 1062-1064 1067-106D 1083 1087-108C 108F 109A-109C 1A61 1A63-1A64 AA7B
       AA7D 11720-11721")))

/-- The syllables of Hangul without a final consonant. -/
def openSyllables : Ranges :=
  (List.range 399).map fun i => (0xAC00 + 28 * i, 0xAC00 + 28 * i)

/-- The syllables of Hangul with a final consonant. -/
def closedSyllables : Ranges :=
  (List.range 399).map fun i => (0xAC01 + 28 * i, 0xAC1B + 28 * i)

/-- The class of code points between which no character ends, by its short or long name. -/
def graphemeBreak? : String → Option CodeSet
  | "cn" | "control" => some controlSet
  | "cr" => some (.table (.ofText "D"))
  | "ex" | "extend" => some extendSet
  | "l" => some (.table (.ofText "1100-115F A960-A97C"))
  | "lf" => some (.table (.ofText "A"))
  | "lv" => some (.table openSyllables)
  | "lvt" => some (.table closedSyllables)
  | "pp" | "prepend" => some (.union (Property.set .prependedConcatenationMark)
      (.table (.ofText "D4E 111C2-111C3 1193F 11941 11A3A 11A84-11A89 11D46 11F02")))
  | "ri" | "regionalindicator" => some (Property.set .regionalIndicator)
  | "sm" | "spacingmark" => some spacingMarkSet
  | "t" => some (.table (.ofText "11A8-11FF D7CB-D7FB"))
  | "v" => some (.table (.ofText "1160-11A7 D7B0-D7C6"))
  | "zwj" => some (.table (.ofText "200D"))
  | _ => none

/-! ## Words -/

/-- What extends the character of a word before it. -/
def wordExtendSet : CodeSet := .union extendSet (Category.set .spacingMark)

def katakanaSet : CodeSet :=
  .union (.table Script.katakana.codes) (.table (.ofText "3031-3035 309B-309C 30A0 30FC FF70"))

def hebrewLetterSet : CodeSet := .inter (.table Script.hebrew.codes) (Category.set .otherLetter)

/-- Letters of scripts that part their words by blanks. -/
def blankPartedSet : CodeSet :=
  .diff
    (.union (Property.set .alphabetic) (.table (.ofText
      "2C2-2C5 2D2-2D7 2DE-2DF 2E5-2EB 2ED 2EF-2FF 55A-55C 55E 58A 5F3 A708-A716 A720-A721
       A789-A78A AB5B")))
    (.unionAll [Property.set .ideographic, katakanaSet, .table Script.hiragana.codes, wordExtendSet, hebrewLetterSet,
      .unionAll ([Script.thai, .lao, .myanmar, .khmer, .taiLe, .newTaiLue, .taiTham, .taiViet, .ahom].map fun s =>
        .table s.codes)])

/-- The class of code points between which no word ends, by its short or long name. -/
def wordBreak? : String → Option CodeSet
  | "cr" => some (.table (.ofText "D"))
  | "dq" | "doublequote" => some (.table (.ofText "22"))
  | "ex" | "extendnumlet" => some (.union (Category.set .connectorPunctuation) (.table (.ofText "202F")))
  | "extend" => some wordExtendSet
  | "fo" | "format" =>
    some (.diff (Category.set .format) (.union wordExtendSet (.table (.ofText "200B 200D"))))
  | "hl" | "hebrewletter" => some hebrewLetterSet
  | "ka" | "katakana" => some katakanaSet
  | "le" | "aletter" => some blankPartedSet
  | "lf" => some (.table (.ofText "A"))
  | "mb" | "midnumlet" => some (.table (.ofText "2E 2018-2019 2024 FE52 FF07 FF0E"))
  | "ml" | "midletter" => some (.table (.ofText "3A B7 387 55F 5F4 2027 FE13 FE55 FF1A"))
  | "mn" | "midnum" => some (.table (.ofText
      "2C 3B 37E 589 60C-60D 66C 7F8 2044 FE10 FE14 FE50 FE54 FF0C FF1B"))
  | "nl" | "newline" => some (.table (.ofText "B-C 85 2028-2029"))
  | "nu" | "numeric" => some (.union (Category.set .decimalNumber) (.table (.ofText "66B")))
  | "ri" | "regionalindicator" => some (Property.set .regionalIndicator)
  | "sq" | "singlequote" => some (.table (.ofText "27"))
  | "wsegspace" => some (.diff (Category.set .spaceSeparator) (.table (.ofText "A0 2007 202F")))
  | "zwj" => some (.table (.ofText "200D"))
  | _ => none

/-! ## Sentences -/

/-- What extends the character of a sentence before it. -/
def sentenceExtendSet : CodeSet :=
  .unionAll [Property.set .graphemeExtend, Category.set .spacingMark, .table (.ofText "200D")]

/-- Small letters but those of Georgian, which may start a sentence. -/
def sentenceLowerSet : CodeSet :=
  .diff (Property.set .lowercase) (.union (Property.set .graphemeExtend) (.table (.ofText "10D0-10FA 10FD-10FF")))

/-- Capitals but those of Georgian, which do not start a sentence. -/
def sentenceUpperSet : CodeSet :=
  .diff (.union (Category.set .titlecaseLetter) (Property.set .uppercase)) (.table (.ofText "1C90-1CBA 1CBD-1CBF"))

/-- The class of code points between which no sentence ends, by its short or long name. -/
def sentenceBreak? : String → Option CodeSet
  | "at" | "aterm" => some (.table (.ofText "2E 2024 FE52 FF0E"))
  | "cl" | "close" => some (.diff
      (.unionAll [setOf [.openPunctuation, .closePunctuation, .initialPunctuation, .finalPunctuation],
        Property.set .quotationMark, .table (.ofText "275B-2760 2E00-2E01 2E06-2E08 2E0B 1F676-1F678")])
      (.table (.ofText "FF02 FF07")))
  | "cr" => some (.table (.ofText "D"))
  | "ex" | "extend" => some sentenceExtendSet
  | "fo" | "format" => some (.diff (Category.set .format) sentenceExtendSet)
  | "le" | "oletter" => some (.diff (.union (Property.set .alphabetic) (.table (.ofText "5F3")))
      (.unionAll [sentenceLowerSet, sentenceUpperSet, sentenceExtendSet]))
  | "lf" => some (.table (.ofText "A"))
  | "lo" | "lower" => some sentenceLowerSet
  | "nu" | "numeric" => some (.union (Category.set .decimalNumber) (.table (.ofText "66B-66C")))
  | "sc" | "scontinue" => some (.table (.ofText
      "2C-2D 3A 55D 60C-60D 7F8 1802 1808 2013-2014 3001 FE10-FE11 FE13 FE31-FE32 FE50-FE51
       FE55 FE58 FE63 FF0C-FF0D FF1A FF64"))
  | "se" | "sep" => some (.table (.ofText "85 2028-2029"))
  | "sp" => some (.diff (Property.set .whiteSpace) (.table (.ofText "A D 85 2028-2029")))
  | "st" | "sterm" => some (.diff (Property.set .sentenceTerminal) (.table (.ofText "2E FE52 FF0E")))
  | "up" | "upper" => some sentenceUpperSet
  | _ => none

end ImportLint.Unicode
