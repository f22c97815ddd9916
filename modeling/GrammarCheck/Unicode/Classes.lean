import GrammarCheck.Unicode.Property
import GrammarCheck.Unicode.Casing
import GrammarCheck.Unicode.Later

/-! The classes of characters that rules, texts and dictionaries refer to. ASCII is decided directly. -/

namespace GrammarCheck.Unicode

def isWhitespace (c : Char) : Bool :=
  let n := c.toNat
  (9 ≤ n && n ≤ 13) || n == 32 || n == 0x85 || n == 0xA0 || n == 0x1680 || (0x2000 ≤ n && n ≤ 0x200A) ||
    n == 0x2028 || n == 0x2029 || n == 0x202F || n == 0x205F || n == 0x3000

def whitespaceSet : RangeSet := Property.whiteSpace.listed

/-- Decimal digits, as patterns know them. -/
def digitSet : RangeSet := Category.decimalNumber.ranges

/-- Letters, marks, decimal digits, connecting punctuation and the two joiners, as patterns know them. -/
def wordSet : RangeSet :=
  .unions [Property.alphabeticSet, .ofCategories [.nonspacingMark, .spacingMark, .enclosingMark, .decimalNumber,
    .connectorPunctuation], Property.joinControl.listed]

def alphabeticSet : RangeSet := Property.alphabeticSet.union Later.alphabetic

def alphanumericSet : RangeSet :=
  .unions [alphabeticSet, .ofCategories [.decimalNumber, .letterNumber, .otherNumber], Later.numeric]

/-- Characters that are shown by their code in quoted text: they have no visible form of their own. -/
def unprintableSet : RangeSet :=
  (RangeSet.ofCategories [.control, .format, .privateUse, .unassigned, .lineSeparator, .paragraphSeparator,
    .spaceSeparator]).diff (Later.assigned.union (.single 32))

/-- Signs shown upon the character before them. The two halfwidth sound marks take a place of their own. -/
def graphemeExtendSet : RangeSet :=
  (Property.graphemeExtendSet.union Later.graphemeExtend).diff (.interval 0xFF9E 0xFF9F)

def casedSet : RangeSet := (Property.casedSet.union Later.cased).diff Later.caseless

def caseIgnorableSet : RangeSet := Property.caseIgnorableSet.union Later.caseIgnorable

def isAsciiWord (c : Char) : Bool := c.isAlphanum || c == '_'

def isWord (c : Char) : Bool := if c.toNat < 128 then isAsciiWord c else wordSet.hasChar c

def isDecimalDigit (c : Char) : Bool := if c.toNat < 128 then c.isDigit else digitSet.hasChar c

def isAlphabetic (c : Char) : Bool := if c.toNat < 128 then c.isAlpha else alphabeticSet.hasChar c

def isAlphanumeric (c : Char) : Bool := if c.toNat < 128 then c.isAlphanum else alphanumericSet.hasChar c

def isPrintable (c : Char) : Bool :=
  if c.toNat < 128 then 32 ≤ c.toNat && c.toNat < 127 else !unprintableSet.hasChar c

def isGraphemeExtend (c : Char) : Bool := 128 ≤ c.toNat && graphemeExtendSet.hasChar c

end GrammarCheck.Unicode
