import GrammarCheck.Unicode.Property
import GrammarCheck.Unicode.Script

/-! The parts that code points play in telling graphemes, words and sentences apart. Each part is a set computed from
categories, properties and scripts, with short tables of what is named one by one; what plays no part is left out. -/

namespace GrammarCheck.Unicode

inductive GraphemeBreak where
  | carriageReturn
  | lineFeed
  | control
  | extend
  | joiner
  | regionalIndicator
  | prepend
  | spacingMark
  | leadingJamo
  | vowelJamo
  | trailingJamo
  | openSyllable
  | closedSyllable
  deriving DecidableEq, Inhabited

inductive WordBreak where
  | letter
  | hebrewLetter
  | katakana
  | numeric
  | connector
  | carriageReturn
  | lineFeed
  | newline
  | extend
  | format
  | joiner
  | regionalIndicator
  | singleQuote
  | doubleQuote
  | middleOfLetters
  | middleOfNumbers
  | middleOfEither
  | space
  deriving DecidableEq, Inhabited

inductive SentenceBreak where
  | lower
  | upper
  | otherLetter
  | numeric
  | carriageReturn
  | lineFeed
  | separator
  | extend
  | format
  | space
  | fullStop
  | terminator
  | continuation
  | close
  deriving DecidableEq, Inhabited

namespace Boundary

def carriageReturn : RangeSet := .single 13

def lineFeed : RangeSet := .single 10

/-- The character that joins what stands around it into one sign. -/
def joiner : RangeSet := .single 0x200D

/-- Marks before the letter that they belong to. -/
def prepended : RangeSet :=
  Property.prependedConcatenationMark.listed.union
    (.ofTable "D4E 111C2-111C3 113D1 1193F 11941 11A3A 11A84-11A89 11D46 11F02")

/-- Spacing marks that stand by themselves. -/
def freeMarks : RangeSet :=
  .ofTable "102B-102C 1038 1062-1064 1067-106D 1083 1087-108C 108F 109A-109C 1A61 1A63-1A64 AA7B AA7D 11720-11721"

def spacingMarks : RangeSet :=
  ((Category.spacingMark.ranges.union (.ofTable "E33 EB3")).diff Property.graphemeExtendSet).diff freeMarks

def invisible : RangeSet :=
  .unions [.ofCategories [.lineSeparator, .paragraphSeparator, .control, .format],
    Category.unassigned.ranges.inter Property.defaultIgnorableCodePoint.listed]

def controls : RangeSet :=
  invisible.diff (.unions [carriageReturn, lineFeed, joiner, prepended, Property.graphemeExtendSet])

def syllables : RangeSet := .interval 0xAC00 0xD7A3

/-- Syllables without a final consonant; each is followed by those that end in one. -/
def openSyllables : RangeSet := .ofTable "AC00-D788/1C"

/-- All marks that belong to the character before them. -/
def marks : RangeSet := Property.graphemeExtendSet.union Category.spacingMark.ranges

def hebrewLetters : RangeSet := (Script.rangesOf "Hebrew").inter Category.otherLetter.ranges

def katakana : RangeSet := (Script.rangesOf "Katakana").union (.ofTable "3031-3035 309B-309C 30A0 30FC FF70")

/-- Letters of scripts in which words are not separated. -/
def unseparatedLetters : RangeSet :=
  .ofTable "E01-E30 E32-E33 E40-E46 E81-E82 E84 E86-E8A E8C-EA3 EA5 EA7-EB0 EB2-EB3 EBD EC0-EC4 EC6 EDC-EDF
    1000-102A 103F 1050-1055 105A-105D 1061 1065-1066 106E-1070 1075-1081 108E 1780-17B3 17D7 17DC
    1950-196D 1970-1974 1980-19AB 19B0-19C9 1A20-1A54 1AA7 A9E0-A9E4 A9E6-A9EF A9FA-A9FE AA60-AA76
    AA7A AA7E-AAAF AAB1 AAB5-AAB6 AAB9-AABD AAC0 AAC2 AADB-AADD 11700-1171A 11740-11746"

/-- Signs that count as letters of a word. -/
def letterLike : RangeSet :=
  .ofTable "B8 2C2-2C5 2D2-2D7 2DE-2DF 2E5-2EB 2ED 2EF-2FF 55A-55C 55E 58A 5F3 70F A708-A716 A720-A721
    A789-A78A AB5B"

def letters : RangeSet :=
  (Property.alphabeticSet.union letterLike).diff
    (.unions [Property.ideographic.listed, Script.rangesOf "Hiragana", katakana, hebrewLetters, marks,
      unseparatedLetters])

/-- Digits, and signs that stand before or between them. -/
def numbers : RangeSet :=
  Category.decimalNumber.ranges.union (.ofTable "600-605 66B 6DD 890-891 8E2 19DA 110BD 110CD")

def wordMarks : RangeSet := marks.union Property.emojiModifier.listed

def wordFormats : RangeSet :=
  Category.format.ranges.diff (.unions [numbers, letters, wordMarks, .ofTable "200B-200D"])

def lowers : RangeSet :=
  Property.lowercaseSet.diff (Property.graphemeExtendSet.union (.ofTable "10D0-10FA 10FD-10FF"))

def uppers : RangeSet :=
  (Property.uppercaseSet.union Category.titlecaseLetter.ranges).diff (.ofTable "1C90-1CBA 1CBD-1CBF")

def sentenceMarks : RangeSet := marks.union joiner

def sentenceNumbers : RangeSet := numbers.union (.single 0x66C)

def separators : RangeSet := .ofTable "85 2028-2029"

def fullStops : RangeSet := .ofTable "2E 2024 FE52 FF0E"

def terminators : RangeSet := Property.sentenceTerminal.listed.diff fullStops

end Boundary

open Boundary

namespace GraphemeBreak

def all : List GraphemeBreak :=
  [.carriageReturn, .lineFeed, .control, .extend, .joiner, .regionalIndicator, .prepend, .spacingMark,
   .leadingJamo, .vowelJamo, .trailingJamo, .openSyllable, .closedSyllable]

def names : GraphemeBreak → List String
  | .carriageReturn => ["CR"]
  | .lineFeed => ["LF"]
  | .control => ["CN", "Control"]
  | .extend => ["EX", "Extend"]
  | .joiner => ["ZWJ"]
  | .regionalIndicator => ["RI", "Regional_Indicator"]
  | .prepend => ["PP", "Prepend"]
  | .spacingMark => ["SM", "SpacingMark"]
  | .leadingJamo => ["L"]
  | .vowelJamo => ["V"]
  | .trailingJamo => ["T"]
  | .openSyllable => ["LV"]
  | .closedSyllable => ["LVT"]

def ranges : GraphemeBreak → RangeSet
  | .carriageReturn => Boundary.carriageReturn
  | .lineFeed => Boundary.lineFeed
  | .control => controls
  | .extend => Property.graphemeExtendSet.union Property.emojiModifier.listed
  | .joiner => Boundary.joiner
  | .regionalIndicator => Property.regionalIndicator.listed
  | .prepend => prepended
  | .spacingMark => spacingMarks
  | .leadingJamo => .ofTable "1100-115F A960-A97C"
  | .vowelJamo => .ofTable "1160-11A7 D7B0-D7C6 16D63 16D67-16D6A"
  | .trailingJamo => .ofTable "11A8-11FF D7CB-D7FB"
  | .openSyllable => openSyllables
  | .closedSyllable => syllables.diff openSyllables

end GraphemeBreak

namespace WordBreak

def all : List WordBreak :=
  [.letter, .hebrewLetter, .katakana, .numeric, .connector, .carriageReturn, .lineFeed, .newline, .extend, .format,
   .joiner, .regionalIndicator, .singleQuote, .doubleQuote, .middleOfLetters, .middleOfNumbers, .middleOfEither,
   .space]

def names : WordBreak → List String
  | .letter => ["LE", "ALetter"]
  | .hebrewLetter => ["HL", "Hebrew_Letter"]
  | .katakana => ["KA", "Katakana"]
  | .numeric => ["NU", "Numeric"]
  | .connector => ["EX", "ExtendNumLet"]
  | .carriageReturn => ["CR"]
  | .lineFeed => ["LF"]
  | .newline => ["NL", "Newline"]
  | .extend => ["Extend"]
  | .format => ["FO", "Format"]
  | .joiner => ["ZWJ"]
  | .regionalIndicator => ["RI", "Regional_Indicator"]
  | .singleQuote => ["SQ", "Single_Quote"]
  | .doubleQuote => ["DQ", "Double_Quote"]
  | .middleOfLetters => ["ML", "MidLetter"]
  | .middleOfNumbers => ["MN", "MidNum"]
  | .middleOfEither => ["MB", "MidNumLet"]
  | .space => ["WSegSpace"]

def ranges : WordBreak → RangeSet
  | .letter => letters
  | .hebrewLetter => hebrewLetters
  | .katakana => Boundary.katakana
  | .numeric => numbers
  | .connector => .ofTable "5F 202F 203F-2040 2054 FE33-FE34 FE4D-FE4F FF3F"
  | .carriageReturn => Boundary.carriageReturn
  | .lineFeed => Boundary.lineFeed
  | .newline => .ofTable "B-C 85 2028-2029"
  | .extend => wordMarks
  | .format => wordFormats
  | .joiner => Boundary.joiner
  | .regionalIndicator => Property.regionalIndicator.listed
  | .singleQuote => .single 0x27
  | .doubleQuote => .single 0x22
  | .middleOfLetters => .ofTable "3A B7 387 55F 5F4 2027 FE13 FE55 FF1A"
  | .middleOfNumbers => .ofTable "2C 3B 37E 589 60C-60D 66C 7F8 2044 FE10 FE14 FE50 FE54 FF0C FF1B"
  | .middleOfEither => .ofTable "2E 2018-2019 2024 FE52 FF07 FF0E"
  | .space => Category.spaceSeparator.ranges.diff (.ofTable "A0 2007 202F")

end WordBreak

namespace SentenceBreak

def all : List SentenceBreak :=
  [.lower, .upper, .otherLetter, .numeric, .carriageReturn, .lineFeed, .separator, .extend, .format, .space,
   .fullStop, .terminator, .continuation, .close]

def names : SentenceBreak → List String
  | .lower => ["LO", "Lower"]
  | .upper => ["UP", "Upper"]
  | .otherLetter => ["LE", "OLetter"]
  | .numeric => ["NU", "Numeric"]
  | .carriageReturn => ["CR"]
  | .lineFeed => ["LF"]
  | .separator => ["SE", "Sep"]
  | .extend => ["EX", "Extend"]
  | .format => ["FO", "Format"]
  | .space => ["SP", "Sp"]
  | .fullStop => ["AT", "ATerm"]
  | .terminator => ["ST", "STerm"]
  | .continuation => ["SC", "SContinue"]
  | .close => ["CL", "Close"]

def ranges : SentenceBreak → RangeSet
  | .lower => lowers
  | .upper => uppers
  | .otherLetter => (Property.alphabeticSet.union (.single 0x5F3)).diff (.unions [lowers, uppers, sentenceMarks])
  | .numeric => sentenceNumbers
  | .carriageReturn => Boundary.carriageReturn
  | .lineFeed => Boundary.lineFeed
  | .separator => separators
  | .extend => sentenceMarks
  | .format => Category.format.ranges.diff (sentenceMarks.union sentenceNumbers)
  | .space => Property.whiteSpace.listed.diff (.unions [separators, Boundary.carriageReturn, Boundary.lineFeed])
  | .fullStop => fullStops
  | .terminator => terminators
  | .continuation =>
    .ofTable "2C-2D 3A-3B 37E 55D 60C-60D 7F8 1802 1808 2013-2014 3001 FE10-FE11 FE13-FE14 FE31-FE32 FE50-FE51
      FE54-FE55 FE58 FE63 FF0C-FF0D FF1A-FF1B FF64"
  | .close =>
    (RangeSet.ofCategories [.openPunctuation, .closePunctuation, .initialPunctuation, .finalPunctuation]).union
      (.ofTable "22 27 275B-2760 2E00-2E01 2E06-2E08 2E0B 1F676-1F678")

end SentenceBreak

end GrammarCheck.Unicode
