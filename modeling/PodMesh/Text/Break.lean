import PodMesh.Text.Property
import PodMesh.Text.Script

/-!
# Where text may be broken

The classes of characters that decide where a text falls into the units that a reader
sees, into words and into sentences. Each class is given by its rule.
-/

namespace PodMesh.Text.Break

open Category (charsOf)
open Property

/-- The characters of a script, by its name. -/
def ofScript (name : String) : CharSet :=
  ((Script.all.find? fun s => s.name = name).map Script.chars).getD .empty

/-! ## Units -/

/-- Join the character after them. -/
def unitPrepend : CharSet :=
  .union prependedConcatenationMark <|
    .ofTable "D4E 111C2-111C3 113D1 1193F 11941 11A3A 11A84-11A89 11D46 11F02"

/-- Join the character before them. -/
def unitExtend : CharSet := .union graphemeExtend emojiModifier

/-- Have width and all the same join the character before them. -/
def unitSpacing : CharSet :=
  .diff (.union (charsOf [.mc]) (.ofTable "E33 EB3")) <|
    .union unitExtend <|
      .ofTable "102B-102C 1038 1062-1064 1067-106D 1083 1087-108C 108F 109A-109C 1A61 1A63-1A64
        AA7B AA7D 11720-11721"

/-- Never join anything. -/
def unitControl : CharSet :=
  .diff (.union (charsOf [.zl, .zp, .cc, .cf]) (.inter (charsOf [.cn]) defaultIgnorable)) <|
    .unions [.ofTable "A D 200C-200D", unitPrepend, unitExtend]

/-- Syllables without a last consonant: every twenty-eighth one. -/
def openSyllables : CharSet :=
  .ofRuns ((List.range 399).map fun i => (0xac00 + 28 * i, 0xac00 + 28 * i))

/-- The classes of units, each by its names. -/
def units : List (List String × CharSet) :=
  [(["CN", "Control"], unitControl), (["CR"], .one '\r'), (["EX", "Extend"], unitExtend),
    (["L"], .ofTable "1100-115F A960-A97C"), (["LF"], .one '\n'), (["LV"], openSyllables),
    (["LVT"], .diff (.ofTable "AC00-D7A3") openSyllables), (["PP", "Prepend"], unitPrepend),
    (["RI", "Regional_Indicator"], regionalIndicator), (["SM", "SpacingMark"], unitSpacing),
    (["T"], .ofTable "11A8-11FF D7CB-D7FB"),
    (["V"], .ofTable "1160-11A7 D7B0-D7C6 16D63 16D67-16D6A"), (["ZWJ"], .ofTable "200D")]

/-! ## Words -/

/-- Marks, which words do not end before. -/
def wordExtend : CharSet :=
  .diff (.unions [graphemeExtend, charsOf [.mc], emojiModifier]) (.ofTable "200D")

def wordKatakana : CharSet :=
  .union (ofScript "Katakana") (.ofTable "3031-3035 309B-309C 30A0 30FC FF70")

def wordHebrew : CharSet := .inter (ofScript "Hebrew") (charsOf [.lo])

/-- Letters of scripts that put no blanks between words. -/
def wordComplex : CharSet :=
  .ofTable "E01-E30 E32-E33 E40-E46 E81-E82 E84 E86-E8A E8C-EA3 EA5 EA7-EB0 EB2-EB3 EBD EC0-EC4
    EC6 EDC-EDF 1000-102A 103F 1050-1055 105A-105D 1061 1065-1066 106E-1070 1075-1081 108E
    1780-17B3 17D7 17DC 1950-196D 1970-1974 1980-19AB 19B0-19C9 1A20-1A54 1AA7 A9E0-A9E4 A9E6-A9EF
    A9FA-A9FE AA60-AA76 AA7A AA7E-AAAF AAB1 AAB5-AAB6 AAB9-AABD AAC0 AAC2 AADB-AADD 11700-1171A
    11740-11746"

/-- Signs that are letters of words. -/
def wordSigns : CharSet :=
  .ofTable "B8 2C2-2C5 2D2-2D7 2DE-2DF 2E5-2EB 2ED 2EF-2FF 55A-55C 55E 58A 5F3 70F A708-A716
    A720-A721 A789-A78A AB5B"

def wordLetter : CharSet :=
  .diff (.union (.diff alphabetic ideographic) wordSigns) <|
    .unions [wordKatakana, wordComplex, ofScript "Hiragana", wordExtend, wordHebrew]

/-- The marks that span numbers. -/
def numberMarks : CharSet := .diff prependedConcatenationMark (.ofTable "70F")

/-- The classes of words, each by its names. -/
def words : List (List String × CharSet) :=
  [(["CR"], .one '\r'), (["DQ", "Double_Quote"], .one '"'),
    (["EX", "ExtendNumLet"], .union (charsOf [.pc]) (.ofTable "202F")), (["Extend"], wordExtend),
    (["FO", "Format"], .diff (charsOf [.cf]) <|
      .union prependedConcatenationMark (.ofTable "200B-200D E0020-E007F")),
    (["HL", "Hebrew_Letter"], wordHebrew), (["KA", "Katakana"], wordKatakana),
    (["LE", "ALetter"], wordLetter), (["LF"], .one '\n'),
    (["MB", "MidNumLet"], .ofTable "2E 2018-2019 2024 FE52 FF07 FF0E"),
    (["ML", "MidLetter"], .ofTable "3A B7 387 55F 5F4 2027 FE13 FE55 FF1A"),
    (["MN", "MidNum"], .ofTable "2C 3B 37E 589 60C-60D 66C 7F8 2044 FE50 FE54 FF0C FF1B"),
    (["NL", "Newline"], .ofTable "B-C 85 2028-2029"),
    (["NU", "Numeric"], .unions [charsOf [.nd], .ofTable "66B", numberMarks]),
    (["RI", "Regional_Indicator"], regionalIndicator), (["SQ", "Single_Quote"], .one '\''),
    (["WSegSpace"], .diff (charsOf [.zs]) (.ofTable "A0 2007 202F")), (["ZWJ"], .ofTable "200D")]

/-! ## Sentences -/

def sentenceExtend : CharSet := .unions [graphemeExtend, charsOf [.mc], .ofTable "200D"]

def sentenceLower : CharSet :=
  .diff lowercase (.union graphemeExtend (.ofTable "10D0-10FA 10FD-10FF"))

def sentenceUpper : CharSet :=
  .union (charsOf [.lt]) (.diff uppercase (.ofTable "1C90-1CBA 1CBD-1CBF"))

/-- Full stops, which may end a sentence or not. -/
def fullStops : CharSet := .ofTable "2E 2024 FE52 FF0E"

def sentenceEnds : CharSet := .diff sentenceTerminal fullStops

/-- Quotes that are neither initial nor final ones. -/
def plainQuotes : CharSet :=
  .ofTable "22 27 275B-2760 2E00-2E01 2E06-2E08 2E0B 1F676-1F678"

/-- The classes of sentences, each by its names. -/
def sentences : List (List String × CharSet) :=
  [(["AT", "ATerm"], fullStops),
    (["CL", "Close"], .diff (.union (charsOf [.ps, .pe, .pi, .pf]) plainQuotes) <|
      .unions [.ofTable "5F3", fullStops, sentenceEnds]),
    (["CR"], .one '\r'), (["EX", "Extend"], sentenceExtend),
    (["FO", "Format"], .diff (charsOf [.cf]) <|
      .unions [sentenceExtend, numberMarks, .ofTable "200C-200D"]),
    (["LE", "OLetter"], .diff (.union alphabetic (.ofTable "5F3")) <|
      .unions [sentenceLower, sentenceUpper, sentenceExtend]),
    (["LF"], .one '\n'), (["LO", "Lower"], sentenceLower),
    (["NU", "Numeric"], .unions [charsOf [.nd], .ofTable "66B-66C", numberMarks]),
    (["SC", "SContinue"], .ofTable "2C-2D 3A 3B 37E 55D 60C-60D 7F8 1802 1808 2013-2014 3001
      FE10-FE11 FE13-FE14 FE31-FE32 FE50-FE51 FE54-FE55 FE58 FE63 FF0C-FF0D FF1A-FF1B FF64"),
    (["SE", "Sep"], .ofTable "85 2028-2029"),
    (["SP", "Sp"], .diff whiteSpace (.ofTable "A D 85 2028-2029")), (["ST", "STerm"], sentenceEnds),
    (["UP", "Upper"], sentenceUpper)]

end PodMesh.Text.Break
