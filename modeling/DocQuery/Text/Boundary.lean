import DocQuery.Text.Property
import DocQuery.Text.Script

/-!
What characters are for the cutting of a text into letters with their marks, into words and into
sentences. Each of the three divides the characters; those that are not listed are all alike.
-/

namespace DocQuery.Text.Boundary

def carriageReturn : CharSet := CharSet.parse "d"

def lineFeed : CharSet := CharSet.parse "a"

def joiner : CharSet := CharSet.parse "200d"

def script (name : String) : CharSet :=
  ((Script.named.find? (·.1.contains name)).map (·.2)).getD .empty

/-- Signs before a number, which belong to the number. -/
def numberSign : CharSet := Property.prependedConcatenationMark.difference (CharSet.parse "70f")

/-- Letters of scripts that write words without blanks and cut them by a dictionary. -/
def dictionaryScript : CharSet := CharSet.parse
  "e01-e3a e40-e4e e81-e82 e84 e86-e8a e8c-ea3 ea5 ea7-ebd ec0-ec4 ec6 ec8-ece edc-edf 1000-103f
    1050-108f 109a-109f 1780-17d3 17d7 17dc-17dd 1950-196d 1970-1974 1980-19ab 19b0-19c9 19da
    19de-19df 1a20-1a5e 1a60-1a7c 1aa0-1aad a9e0-a9ef a9fa-a9fe aa60-aac2 aadb-aadf 11700-1171a
    1171d-1172b 1173a-1173b 1173f-11746"

namespace Cluster

def control : CharSet :=
  (CharSet.unionOf [Category.control, Category.format, Category.lineSeparator,
    Category.paragraphSeparator, Category.unassigned.intersection Property.defaultIgnorable]).difference
    (CharSet.unionOf [carriageReturn, lineFeed, CharSet.parse "200c-200d",
      Property.prependedConcatenationMark, Property.graphemeExtend])

def extend : CharSet :=
  (Property.graphemeExtend.union Property.emojiModifier).difference joiner

def prepend : CharSet := Property.prependedConcatenationMark.union (CharSet.parse
  "d4e 111c2-111c3 113d1 1193f 11941 11a3a 11a84-11a89 11d46 11f02")

def spacingMark : CharSet :=
  (Category.spacingMark.difference (Property.graphemeExtend.union (CharSet.parse
    "102b-102c 1038 1062-1064 1067-106d 1083 1087-108c 108f 109a-109c 1a61 1a63-1a64 aa7b aa7d
      11720-11721"))).union
    (CharSet.parse "e33 eb3")

def leadingJamo : CharSet := CharSet.parse "1100-115f a960-a97c"

def vowelJamo : CharSet := CharSet.parse "1160-11a7 d7b0-d7c6 16d63 16d67-16d6a"

def trailingJamo : CharSet := CharSet.parse "11a8-11ff d7cb-d7fb"

/-- Korean syllables without a final consonant: every twenty-eighth one. -/
def openSyllable : CharSet := CharSet.parse "ac00-d788/1c"

def closedSyllable : CharSet := (CharSet.parse "ac00-d7a3").difference openSyllable

def named : List (List String × CharSet) :=
  [(["control", "cn"], control), (["cr"], carriageReturn), (["lf"], lineFeed),
    (["extend", "ex"], extend), (["prepend", "pp"], prepend), (["spacingmark", "sm"], spacingMark),
    (["l"], leadingJamo), (["v"], vowelJamo), (["t"], trailingJamo), (["lv"], openSyllable),
    (["lvt"], closedSyllable), (["regionalindicator", "ri"], Property.regionalIndicator),
    (["zwj"], joiner)]

end Cluster

namespace Word

def extend : CharSet :=
  (CharSet.unionOf [Property.graphemeExtend, Category.spacingMark, Property.emojiModifier]).difference
    joiner

def format : CharSet :=
  Category.format.difference (CharSet.unionOf [CharSet.parse "200b-200d",
    Property.graphemeExtend, Property.prependedConcatenationMark])

def katakana : CharSet :=
  (script "kana").union (CharSet.parse "3031-3035 309b-309c 30a0 30fc ff70")

def hebrewLetter : CharSet := (script "hebr").intersection Category.otherLetter

def numeric : CharSet :=
  CharSet.unionOf [Category.decimalNumber, CharSet.parse "66b", numberSign]

def letter : CharSet :=
  (Property.alphabetic.union (CharSet.parse
    "2c2-2c5 2d2-2d7 2de-2df 2e5-2eb 2ed 2ef-2ff 55a-55c 55e 58a 5f3 70f a708-a716 a720-a721
      a789-a78a ab5b")).difference
    (CharSet.unionOf [Property.ideographic, katakana, dictionaryScript, script "hira", extend,
      hebrewLetter])

def numberOrLetterExtend : CharSet := Category.connectorPunctuation.union (CharSet.parse "202f")

def named : List (List String × CharSet) :=
  [(["cr"], carriageReturn), (["lf"], lineFeed), (["newline", "nl"], CharSet.parse "b-c 85 2028-2029"),
    (["extend"], extend), (["zwj"], joiner), (["format", "fo"], format),
    (["katakana", "ka"], katakana), (["hebrewletter", "hl"], hebrewLetter),
    (["aletter", "le"], letter), (["singlequote", "sq"], CharSet.parse "27"),
    (["doublequote", "dq"], CharSet.parse "22"),
    (["midnumlet", "mb"], CharSet.parse "2e 2018-2019 2024 fe52 ff07 ff0e"),
    (["midletter", "ml"], CharSet.parse "3a b7 387 55f 5f4 2027 fe13 fe55 ff1a"),
    (["midnum", "mn"], CharSet.parse
      "2c 3b 37e 589 60c-60d 66c 7f8 2044 fe10 fe14 fe50 fe54 ff0c ff1b"),
    (["numeric", "nu"], numeric), (["extendnumlet", "ex"], numberOrLetterExtend),
    (["regionalindicator", "ri"], Property.regionalIndicator),
    (["wsegspace"], CharSet.parse "20 1680 2000-2006 2008-200a 205f 3000")]

end Word

namespace Sentence

def extend : CharSet := CharSet.unionOf [Property.graphemeExtend, Category.spacingMark, joiner]

def separator : CharSet := CharSet.parse "85 2028-2029"

def format : CharSet :=
  Category.format.difference (CharSet.unionOf [CharSet.parse "200c-200d",
    Property.graphemeExtend, Property.prependedConcatenationMark])

def space : CharSet :=
  Property.whiteSpace.difference (CharSet.unionOf [separator, carriageReturn, lineFeed])

def lower : CharSet :=
  Property.lowercase.difference (Property.graphemeExtend.union (CharSet.parse "10d0-10fa 10fd-10ff"))

def upper : CharSet :=
  Category.titlecaseLetter.union
    (Property.uppercase.difference (CharSet.parse "1c90-1cba 1cbd-1cbf"))

def letter : CharSet :=
  (Property.alphabetic.union (CharSet.parse "5f3")).difference
    (CharSet.unionOf [lower, upper, extend])

def numeric : CharSet := Word.numeric.union (CharSet.parse "66c")

def fullStop : CharSet := CharSet.parse "2e 2024 fe52 ff0e"

def continuation : CharSet := CharSet.parse
  "2c-2d 3a-3b 37e 55d 60c-60d 7f8 1802 1808 2013-2014 3001 fe10-fe11 fe13-fe14 fe31-fe32
    fe50-fe51 fe54-fe55 fe58 fe63 ff0c-ff0d ff1a-ff1b ff64"

def terminal : CharSet := Property.sentenceTerminal.difference fullStop

def closing : CharSet :=
  (CharSet.unionOf [Category.openPunctuation, Category.closePunctuation,
    Category.initialPunctuation, Category.finalPunctuation,
    CharSet.parse "22 27 275b-2760 2e00-2e01 2e06-2e08 2e0b 1f676-1f678"]).difference
    (fullStop.union terminal)

def named : List (List String × CharSet) :=
  [(["cr"], carriageReturn), (["lf"], lineFeed), (["extend", "ex"], extend),
    (["sep", "se"], separator), (["format", "fo"], format), (["sp"], space),
    (["lower", "lo"], lower), (["upper", "up"], upper), (["oletter", "le"], letter),
    (["numeric", "nu"], numeric), (["aterm", "at"], fullStop), (["scontinue", "sc"], continuation),
    (["sterm", "st"], terminal), (["close", "cl"], closing)]

end Sentence
end DocQuery.Text.Boundary
