/-
How texts divide into the characters a reader sees, into words and into sentences: the class that
each character has for each of the three divisions.
-/
import Amend.Unicode.Binary
import Amend.Unicode.Script

namespace Amend
namespace Unicode

/-- The own characters of a script. -/
def scriptChars (short : String) : Ranges :=
  ((scripts.find? fun row => row.1 = short).map fun row => row.2.2).getD []

namespace Grapheme

/-- Marks that stay with the character before. -/
def extend : Ranges := .union graphemeExtend emojiModifier

/-- Marks that stay with the character after. -/
def prepend : Ranges := .union prependedMark (.ofText
  "d4e 111c2-111c3 113d1 1193f 11941 11a3a 11a84-11a89 11d46 11f02")

/-- Characters that stand for layout and are never joined. -/
def control : Ranges :=
  .diff
    (.unionAll [Category.lineSeparator, Category.paragraphSeparator, Category.control,
      Category.format, .inter Category.unassigned defaultIgnorable])
    (.unionAll [prependedMark, extend, .ofText "a d 200c-200d"])

/-- Marks with a space of their own that stay with the character before. -/
def spacing : Ranges :=
  .union (.ofText "e33 eb3")
    (.diff Category.spacingMark (.union extend (.ofText
      "102b-102c 1038 1062-1064 1067-106d 1083 1087-108c 108f 109a-109c 1a61 1a63-1a64 aa7b
       aa7d 11720-11721")))

/-- The first and the last Korean syllable. -/
def syllables : Nat × Nat := (0xAC00, 0xD7A3)

/-- Korean syllables without a final consonant, one for each 27 with one. -/
def openSyllables : Ranges :=
  (List.range 399).map fun i => (syllables.1 + 28 * i, syllables.1 + 28 * i)

/-- The classes with their names. -/
def classes : List (List String × Ranges) :=
  [(["cr"], .ofText "d"),
    (["lf"], .ofText "a"),
    (["zwj"], .ofText "200d"),
    (["cn", "control"], control),
    (["ex", "extend"], extend),
    (["pp", "prepend"], prepend),
    (["sm", "spacingmark"], spacing),
    (["ri", "regionalindicator"], regionalIndicator),
    (["l"], .ofText "1100-115f a960-a97c"),
    (["v"], .ofText "1160-11a7 d7b0-d7c6 16d63 16d67-16d6a"),
    (["t"], .ofText "11a8-11ff d7cb-d7fb"),
    (["lv"], openSyllables),
    (["lvt"], .diff [syllables] openSyllables)]

end Grapheme

namespace Word

/-- Marks and joiners inside a word. -/
def extend : Ranges := .union Grapheme.extend Category.spacingMark

/-- Invisible characters that a word passes over. -/
def format : Ranges :=
  .diff Category.format (.unionAll [Grapheme.prepend, extend, .ofText "200b-200d"])

def katakana : Ranges := .union (scriptChars "Kana") (.ofText
  "3031-3035 309b-309c 30a0 30fc ff70")

def hebrewLetter : Ranges := .inter (scriptChars "Hebr") Category.otherLetter

/-- Letters of scripts that write no spaces between words. -/
def unspacedLetter : Ranges := .ofText
  "e01-e30 e32-e33 e40-e46 e81-e82 e84 e86-e8a e8c-ea3 ea5 ea7-eb0 eb2-eb3 ebd ec0-ec4 ec6
   edc-edf 1000-102a 103f 1050-1055 105a-105d 1061 1065-1066 106e-1070 1075-1081 108e 1780-17b3
   17d7 17dc 1950-196d 1970-1974 1980-19ab 19b0-19c9 1a20-1a54 1aa7 a9e0-a9e4 a9e6-a9ef
   a9fa-a9fe aa60-aa76 aa7a aa7e-aaaf aab1 aab5-aab6 aab9-aabd aac0 aac2 aadb-aadd 11700-1171a
   11740-11746"

/-- Letters of scripts whose words are runs of letters. -/
def letter : Ranges :=
  .diff
    (.union alphabetic (.ofText
      "2c2-2c5 2d2-2d7 2de-2df 2e5-2eb 2ed 2ef-2ff 55a-55c 55e 58a 5f3 70f a708-a716 a720-a721
       a789-a78a ab5b"))
    (.unionAll [ideographic, katakana, hebrewLetter, scriptChars "Hira", extend, unspacedLetter])

/-- Digits, their decimal separator, and the marks that span digits. -/
def numeric : Ranges :=
  .union Category.decimalNumber (.ofText
    "600-605 66b 6dd 890-891 8e2 19da 110bd 110cd")

/-- The classes with their names. -/
def classes : List (List String × Ranges) :=
  [(["cr"], .ofText "d"),
    (["lf"], .ofText "a"),
    (["zwj"], .ofText "200d"),
    (["nl", "newline"], .ofText "b-c 85 2028-2029"),
    (["sq", "singlequote"], .ofText "27"),
    (["dq", "doublequote"], .ofText "22"),
    (["extend"], extend),
    (["fo", "format"], format),
    (["ka", "katakana"], katakana),
    (["hl", "hebrewletter"], hebrewLetter),
    (["le", "aletter"], letter),
    (["ml", "midletter"], .ofText "3a b7 387 55f 5f4 2027 fe13 fe55 ff1a"),
    (["mn", "midnum"], .ofText
      "2c 3b 37e 589 60c-60d 66c 7f8 2044 fe50 fe54 ff0c ff1b"),
    (["mb", "midnumlet"], .ofText "2e 2018-2019 2024 fe52 ff07 ff0e"),
    (["nu", "numeric"], numeric),
    (["ex", "extendnumlet"], .union Category.connectorPunctuation (.ofText "202f")),
    (["ri", "regionalindicator"], regionalIndicator),
    (["wsegspace"], .diff Category.spaceSeparator (.ofText "a0 2007 202f"))]

end Word

namespace Sentence

/-- Marks and joiners inside a sentence. -/
def extend : Ranges :=
  .unionAll [graphemeExtend, Category.spacingMark, .ofText "200d"]

def numeric : Ranges := .union Word.numeric (.ofText "66c")

/-- Invisible characters that a sentence passes over. -/
def format : Ranges := .diff Category.format (.union extend numeric)

/-- Ends of paragraphs. -/
def separator : Ranges := .ofText "85 2028-2029"

/-- Lowercase letters.  The Georgian letters do not begin sentences in another case. -/
def lower : Ranges := .diff lowercase (.union extend (.ofText "10d0-10fa 10fd-10ff"))

/-- Letters that may begin a sentence. -/
def upper : Ranges :=
  .diff (.union Category.titlecaseLetter uppercase) (.ofText "1c90-1cba 1cbd-1cbf")

/-- Letters without such cases. -/
def otherLetter : Ranges :=
  .diff (.union alphabetic (.ofText "5f3")) (.unionAll [lower, upper, extend])

/-- Full stops, which may also stand inside a sentence. -/
def fullStop : Ranges := .ofText "2e 2024 fe52 ff0e"

/-- The classes with their names. -/
def classes : List (List String × Ranges) :=
  [(["cr"], .ofText "d"),
    (["lf"], .ofText "a"),
    (["ex", "extend"], extend),
    (["se", "sep"], separator),
    (["fo", "format"], format),
    (["sp"], .diff whiteSpace (.union separator (.ofText "a d"))),
    (["lo", "lower"], lower),
    (["up", "upper"], upper),
    (["le", "oletter"], otherLetter),
    (["nu", "numeric"], numeric),
    (["at", "aterm"], fullStop),
    (["sc", "scontinue"], .ofText
      "2c-2d 3a-3b 37e 55d 60c-60d 7f8 1802 1808 2013-2014 3001 fe10-fe11 fe13-fe14 fe31-fe32
       fe50-fe51 fe54-fe55 fe58 fe63 ff0c-ff0d ff1a-ff1b ff64"),
    (["st", "sterm"], .diff sentenceTerminal fullStop),
    (["cl", "close"],
      .unionAll [Category.openPunctuation, Category.closePunctuation,
        Category.initialPunctuation, Category.finalPunctuation,
        .ofText "22 27 275b-2760 2e00-2e01 2e06-2e08 2e0b 1f676-1f678"])]

end Sentence
end Unicode
end Amend
