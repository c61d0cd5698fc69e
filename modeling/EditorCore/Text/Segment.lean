import EditorCore.Text.Property
import EditorCore.Text.Script

/-!
# Where text can be cut

The classes of characters by which text is cut into what a reader sees as characters,
into words, and into sentences, as of edition 16 of the character database. The names
of classes are written in small letters, without hyphens and low lines.
-/

namespace EditorCore.Text.Segment

open Property

/-! ## Characters in several classes -/

/-- The characters that belong to the one in front of them. -/
def attached : CharSet := (former extending).union (.ofTable "1f3fb-1f3ff")

/-- The marks that take up space. -/
def spacingMarks : CharSet := formerWhere (· == .spacingMark)

/-- Signs that are written in front of a number or a word, and around it. -/
def enclosingSigns : CharSet := .ofTable "600-605 6dd 890-891 8e2 110bd 110cd"

/-- The characters that format text, but for joiners. -/
def formats : CharSet :=
  .diff (formerWhere (· == .format)) (.unions [.ofTable "200c-200d", enclosingSigns, attached])

/-- The digits of any script, and the sign in front of decimals. -/
def digits : CharSet :=
  .unions [formerWhere (· == .decimalNumber), .ofTable "66b", enclosingSigns]

/-- The line breaks, each of which is a class by itself in all three ways to cut. -/
def lineBreak? : String → Option CharSet
  | "cr" => some (.one '\r')
  | "lf" => some (.one '\n')
  | _ => none

/-! ## Characters as they are seen -/

/-- The syllables of Hangul with no final, in the order of which every 28th is one. -/
def openSyllables : CharSet :=
  .ofRanges ((List.range 399).map fun n => (0xAC00 + 28 * n, 0xAC00 + 28 * n))

/-- The marks that take up space but are not attached. -/
def standingMarks : CharSet := .ofTable
    "102b-102c 1038 1062-1064 1067-106d 1083 1087-108c 108f 109a-109c 1a61 1a63-1a64 aa7b aa7d
    11720-11721"

/-- What controls text and is not shown. -/
def controls : CharSet :=
  let shown := formerWhere fun
    | .control | .lineSeparator | .paragraphSeparator => true
    | _ => false
  let unassigned := (formerWhere (· == .unassigned)).inter ignorable
  (CharSet.unions [shown, unassigned, formats]).diff (.ofTable "a d 70f")

/-- The class of a name for cutting text into characters. -/
def graphemeSet? (name : String) : Option CharSet :=
  match name with
  | "cn" | "control" => some controls
  | "ex" | "extend" => some attached
  | "sm" | "spacingmark" =>
    some (.union ((spacingMarks.diff attached).diff standingMarks) (.ofTable "e33 eb3"))
  | "pp" | "prepend" =>
    some (.ofTable
      "600-605 6dd 70f 890-891 8e2 d4e 110bd 110cd 111c2-111c3 113d1 1193f 11941 11a3a
      11a84-11a89 11d46 11f02")
  | "ri" | "regionalindicator" => some (.ofTable "1f1e6-1f1ff")
  | "zwj" => some (.ofTable "200d")
  | "l" => some (.ofTable "1100-115f a960-a97c")
  | "v" => some (.ofTable "1160-11a7 d7b0-d7c6 16d63 16d67-16d6a")
  | "t" => some (.ofTable "11a8-11ff d7cb-d7fb")
  | "lv" => some openSyllables
  | "lvt" => some ((CharSet.ofTable "ac00-d7a3").diff openSyllables)
  | _ => lineBreak? name

/-! ## Words -/

/-- The letters of Katakana and what is written with them. -/
def katakana : CharSet :=
  (Script.setOf "Kana").union (.ofTable "3031-3035 309b-309c 30a0 30fc ff70")

/-- The letters of Hebrew. -/
def hebrewLetters : CharSet := (Script.setOf "Hebr").inter (formerWhere (· == .otherLetter))

/-- What extends a word. -/
def wordAttached : CharSet := (attached.union spacingMarks).diff (.ofTable "200d")

/-- The letters of scripts that do not set words apart. -/
def unseparated : CharSet := .ofTable
    "e01-e30 e32-e33 e40-e46 e81-e82 e84 e86-e8a e8c-ea3 ea5 ea7-eb0 eb2-eb3 ebd ec0-ec4 ec6
    edc-edf 1000-102a 103f 1050-1055 105a-105d 1061 1065-1066 106e-1070 1075-1081 108e 1780-17b3
    17d7 17dc 1950-196d 1970-1974 1980-19ab 19b0-19c9 1a20-1a54 1aa7 a9e0-a9e4 a9e6-a9ef
    a9fa-a9fe aa60-aa76 aa7a aa7e-aaaf aab1 aab5-aab6 aab9-aabd aac0 aac2 aadb-aadd 11700-1171a
    11740-11746"

/-- The letters that make words. -/
def wordLetters : CharSet :=
  let others := CharSet.unions
    [ideographic, katakana, unseparated, Script.setOf "Hira", wordAttached, hebrewLetters]
  .union ((former alphabetic).diff others) (.ofTable
    "2c2-2c5 2d2-2d7 2de-2df 2e5-2eb 2ed 2ef-2ff 55a-55c 55e 58a 5f3 70f a708-a716 a720-a721
    a789-a78a ab5b")

/-- The class of a name for cutting text into words. -/
def wordSet? (name : String) : Option CharSet :=
  match name with
  | "le" | "aletter" => some wordLetters
  | "hl" | "hebrewletter" => some hebrewLetters
  | "ka" | "katakana" => some katakana
  | "nu" | "numeric" => some digits
  | "extend" => some wordAttached
  | "fo" | "format" => some (formats.diff (.ofTable "70f 200b"))
  | "ex" | "extendnumlet" => some (.ofTable "5f 202f 203f-2040 2054 fe33-fe34 fe4d-fe4f ff3f")
  | "ml" | "midletter" => some (.ofTable "3a b7 387 55f 5f4 2027 fe13 fe55 ff1a")
  | "mb" | "midnumlet" => some (.ofTable "2e 2018-2019 2024 fe52 ff07 ff0e")
  | "mn" | "midnum" =>
    some (.ofTable "2c 3b 37e 589 60c-60d 66c 7f8 2044 fe10 fe14 fe50 fe54 ff0c ff1b")
  | "sq" | "singlequote" => some (.ofTable "27")
  | "dq" | "doublequote" => some (.ofTable "22")
  | "nl" | "newline" => some (.ofTable "b-c 85 2028-2029")
  | "wsegspace" => some (.ofTable "20 1680 2000-2006 2008-200a 205f 3000")
  | "ri" | "regionalindicator" => some (.ofTable "1f1e6-1f1ff")
  | "zwj" => some (.ofTable "200d")
  | _ => lineBreak? name

/-! ## Sentences -/

/-- What extends a part of a sentence. -/
def sentenceAttached : CharSet := .unions [former extending, spacingMarks, .ofTable "200d"]

/-- The small letters of scripts with case. -/
def sentenceSmall : CharSet :=
  (formerSmall.diff (former extending)).diff (.ofTable "10d0-10fa 10fd-10ff")

/-- The capital letters of scripts with case. -/
def sentenceCapital : CharSet :=
  (CharSet.union (former capital) (formerWhere (· == .titlecaseLetter))).diff
    (.ofTable "1c90-1cba 1cbd-1cbf")

/-- The stops that may also mark an abbreviation. -/
def stops : CharSet := .ofTable "2e 2024 fe52 ff0e"

/-- Brackets and quotation marks. -/
def closers : CharSet :=
  .union (.ofTable "22 27 275b-2760 2e00-2e01 2e06-2e08 2e0b 1f676-1f678") <| formerWhere fun
    | .openPunctuation | .closePunctuation | .initialPunctuation | .finalPunctuation => true
    | _ => false

/-- The class of a name for cutting text into sentences. -/
def sentenceSet? (name : String) : Option CharSet :=
  match name with
  | "lo" | "lower" => some sentenceSmall
  | "up" | "upper" => some sentenceCapital
  | "le" | "oletter" =>
    let others := CharSet.unions [sentenceSmall, sentenceCapital, sentenceAttached]
    some (.union ((former alphabetic).diff others) (.ofTable "5f3"))
  | "nu" | "numeric" => some (digits.union (.ofTable "66c"))
  | "ex" | "extend" => some sentenceAttached
  | "fo" | "format" => some formats
  | "at" | "aterm" => some stops
  | "st" | "sterm" => some (sentenceTerminal.diff stops)
  | "cl" | "close" => some closers
  | "sc" | "scontinue" =>
    some (.ofTable
      "2c-2d 3a-3b 37e 55d 60c-60d 7f8 1802 1808 2013-2014 3001 fe10-fe11 fe13-fe14 fe31-fe32
      fe50-fe51 fe54-fe55 fe58 fe63 ff0c-ff0d ff1a-ff1b ff64")
  | "se" | "sep" => some (.ofTable "85 2028-2029")
  | "sp" => some (.ofTable "9 b-c 20 a0 1680 2000-200a 202f 205f 3000")
  | _ => lineBreak? name

end EditorCore.Text.Segment
