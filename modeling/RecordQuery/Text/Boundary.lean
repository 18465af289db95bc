import RecordQuery.Text.Property
import RecordQuery.Text.Script

/-!
# Boundaries in text

The classes into which characters fall where text is divided into graphemes, words and sentences.
Most are put together from categories, properties and scripts.

* `Boundary.grapheme?`, `Boundary.word?`, `Boundary.sentence?`: the class with a name.
-/

namespace RecordQuery.Text.Boundary

open Category Property

/-! ### Classes of all three kinds -/

/-- The carriage return. -/
def carriageReturn : CodePoints := .singleton '\r'

/-- The line feed. -/
def lineFeed : CodePoints := .singleton '\n'

/-- The zero-width joiner. -/
def joiner : CodePoints := .ofText "200D"

/-- What is part of the character before it, if marks that take up space are. -/
def attached : CodePoints := .unions [graphemeExtend, spacingMark, joiner]

/-- Digits and the marks that go with them. -/
def numeric : CodePoints :=
  .unions [decimalNumber, .ofText "66B-66C", prependedConcatenationMark \ .ofText "70F"]

/-! ### Graphemes -/

/-- What attaches to the grapheme before it. -/
def extension : CodePoints := graphemeExtend ∪ emojiModifier

/-- What attaches to the grapheme after it. -/
def preposed : CodePoints :=
  prependedConcatenationMark ∪
    .ofText "D4E 111C2-111C3 113D1 1193F 11941 11A3A 11A84-11A89 11D46 11F02"

/-- What is a grapheme of its own. -/
def isolated : CodePoints :=
  .unions [lineSeparator, paragraphSeparator, control, format,
      assigned.complement ∩ defaultIgnorable] \
    .unions [carriageReturn, lineFeed, joinControl, prependedConcatenationMark, extension]

/-- Marks that take up space but belong to the grapheme before them. -/
def spacing : CodePoints :=
  (spacingMark ∪ .ofText "E33 EB3") \
    (extension ∪ .ofText "102B-102C 1038 1062-1064 1067-106D 1083 1087-108C 108F 109A-109C 1A61
      1A63-1A64 AA7B AA7D 11720-11721")

/-- Hangul syllables without a final consonant. -/
def openSyllable : CodePoints := .ofText "AC00-D788/1C"

/-- Hangul syllables. -/
def syllable : CodePoints := .ofText "AC00-D7A3"

/-- The classes of graphemes, each with its names in lower case. -/
def graphemeSets : List (List String × CodePoints) :=
  [ (["cn", "control"], isolated), (["cr"], carriageReturn), (["lf"], lineFeed),
    (["ex", "extend"], extension), (["zwj"], joiner), (["pp", "prepend"], preposed),
    (["sm", "spacingmark"], spacing), (["ri", "regionalindicator"], regionalIndicator),
    (["l"], .ofText "1100-115F A960-A97C"),
    (["v"], .ofText "1160-11A7 D7B0-D7C6 16D63 16D67-16D6A"),
    (["t"], .ofText "11A8-11FF D7CB-D7FB"),
    (["lv"], openSyllable), (["lvt"], syllable \ openSyllable) ]

/-! ### Words -/

/-- Letters of scripts that leave no space between words. -/
def unspaced : CodePoints := .ofText "
  E01-E30 E32-E33 E40-E46 E81-E82 E84 E86-E8A E8C-EA3 EA5 EA7-EB0 EB2-EB3 EBD EC0-EC4 EC6 EDC-EDF
  1000-102A 103F 1050-1055 105A-105D 1061 1065-1066 106E-1070 1075-1081 108E 1780-17B3 17D7 17DC
  1950-196D 1970-1974 1980-19AB 19B0-19C9 1A20-1A54 1AA7 A9E0-A9E4 A9E6-A9EF A9FA-A9FE AA60-AA76
  AA7A AA7E-AAAF AAB1 AAB5-AAB6 AAB9-AABD AAC0 AAC2 AADB-AADD 11700-1171A 11740-11746"

/-- The script with a name, empty if there is none. -/
def scriptSet (name : String) : CodePoints := (Script.named? name).getD .empty

/-- Letters of Hebrew. -/
def hebrewLetter : CodePoints := scriptSet "hebrew" ∩ otherLetter

/-- Letters of Katakana and the marks that stand among them. -/
def katakana : CodePoints :=
  scriptSet "katakana" ∪ .ofText "3031-3035 309B-309C 30A0 30FC FF70"

/-- Letters, and marks that stand within words as letters do. -/
def wordLetter : CodePoints :=
  (alphabetic ∪ .ofText "B8 2C2-2C5 2D2-2D7 2DE-2DF 2E5-2EB 2ED 2EF-2FF 55A-55C 55E 58A 5F3 70F
    A708-A716 A720-A721 A789-A78A AB5B") \
    .unions [ideographic, katakana, hebrewLetter, scriptSet "hiragana", unspaced, attached]

/-- Controls that do not divide words. -/
def wordFormat : CodePoints :=
  format \ .unions [.ofText "200B", joinControl, prependedConcatenationMark, graphemeExtend]

/-- The classes of words, each with its names in lower case. -/
def wordSets : List (List String × CodePoints) :=
  [ (["cr"], carriageReturn), (["lf"], lineFeed),
    (["nl", "newline"], .ofText "B-C 85 2028-2029"),
    (["extend"], (attached ∪ emojiModifier) \ joiner), (["zwj"], joiner),
    (["fo", "format"], wordFormat), (["ri", "regionalindicator"], regionalIndicator),
    (["ka", "katakana"], katakana), (["hl", "hebrewletter"], hebrewLetter),
    (["le", "aletter"], wordLetter),
    (["sq", "singlequote"], .singleton '\''), (["dq", "doublequote"], .singleton '"'),
    (["mb", "midnumlet"], .ofText "2E 2018-2019 2024 FE52 FF07 FF0E"),
    (["ml", "midletter"], .ofText "3A B7 387 55F 5F4 2027 FE13 FE55 FF1A"),
    (["mn", "midnum"],
      .ofText "2C 3B 37E 589 60C-60D 66C 7F8 2044 FE10 FE14 FE50 FE54 FF0C FF1B"),
    (["nu", "numeric"], numeric \ .ofText "66C"),
    (["ex", "extendnumlet"], connectorPunctuation ∪ .ofText "202F"),
    (["wsegspace"], .ofText "20 1680 2000-2006 2008-200A 205F 3000") ]

/-! ### Sentences -/

/-- Lowercase letters, but not those of Georgian, which has them alone. -/
def sentenceLower : CodePoints := lowercase \ (attached ∪ .ofText "10D0-10FA 10FD-10FF")

/-- Letters in upper or title case, but not the capitals of Georgian. -/
def sentenceUpper : CodePoints :=
  (titlecaseLetter ∪ uppercase) \ .ofText "1C90-1CBA 1CBD-1CBF"

/-- Full stops that may also end an abbreviation. -/
def fullStop : CodePoints := .ofText "2E 2024 FE52 FF0E"

/-- Other marks that end a sentence. -/
def sentenceEnd : CodePoints := sentenceTerminal \ fullStop

/-- The classes of sentences, each with its names in lower case. -/
def sentenceSets : List (List String × CodePoints) :=
  [ (["cr"], carriageReturn), (["lf"], lineFeed), (["ex", "extend"], attached),
    (["se", "sep"], .ofText "85 2028-2029"),
    (["fo", "format"], format \ .unions [joinControl, numeric, graphemeExtend]),
    (["sp"], whiteSpace \ .ofText "A D 85 2028-2029"),
    (["lo", "lower"], sentenceLower), (["up", "upper"], sentenceUpper),
    (["le", "oletter"],
      (alphabetic ∪ .ofText "5F3") \ .unions [sentenceLower, sentenceUpper, attached]),
    (["nu", "numeric"], numeric), (["at", "aterm"], fullStop), (["st", "sterm"], sentenceEnd),
    (["sc", "scontinue"],
      .ofText "2C-2D 3A-3B 37E 55D 60C-60D 7F8 1802 1808 2013-2014 3001 FE10-FE11 FE13-FE14
        FE31-FE32 FE50-FE51 FE54-FE55 FE58 FE63 FF0C-FF0D FF1A-FF1B FF64"),
    (["cl", "close"],
      (bracket ∪ .ofText "22 27 275B-2760 2E00-2E01 2E06-2E08 2E0B 1F676-1F678") \
        (fullStop ∪ sentenceEnd)) ]

/-! ### Names -/

/-- The class of graphemes with a name in lower case. -/
def grapheme? (name : String) : Option CodePoints := CodePoints.named? graphemeSets name

/-- The class of words with a name in lower case. -/
def word? (name : String) : Option CodePoints := CodePoints.named? wordSets name

/-- The class of sentences with a name in lower case. -/
def sentence? (name : String) : Option CodePoints := CodePoints.named? sentenceSets name

end RecordQuery.Text.Boundary
