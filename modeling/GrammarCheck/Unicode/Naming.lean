import GrammarCheck.Unicode.Boundary
import GrammarCheck.Unicode.Edition

/-! Looking up classes of code points by name. Names are compared loosely: case, spaces, underscores and hyphens do
not count, and a leading `is` is dropped. -/

namespace GrammarCheck.Unicode

def looseName (name : List Char) : List Char :=
  let dropped : Bool × List Char :=
    match name with
    | i :: s :: rest => if (i == 'i' || i == 'I') && (s == 's' || s == 'S') then (true, rest) else (false, name)
    | _ => (false, name)
  let kept := dropped.2.filter fun c => c.toNat < 128 && c != ' ' && c != '_' && c != '-'
  let lowered := kept.map Char.toLower
  if dropped.1 && lowered == ['c'] then ['i', 's', 'c'] else lowered

def sameName (loose : List Char) (name : String) : Bool := looseName name.toList == loose

/-- Names of a category, or of a union of categories, with its members. -/
def categoryNames : List (List String × List Category) :=
  [(["L", "Letter"], [.uppercaseLetter, .lowercaseLetter, .titlecaseLetter, .modifierLetter, .otherLetter]),
   (["LC", "Cased_Letter"], [.uppercaseLetter, .lowercaseLetter, .titlecaseLetter]),
   (["Lu", "Uppercase_Letter"], [.uppercaseLetter]),
   (["Ll", "Lowercase_Letter"], [.lowercaseLetter]),
   (["Lt", "Titlecase_Letter"], [.titlecaseLetter]),
   (["Lm", "Modifier_Letter"], [.modifierLetter]),
   (["Lo", "Other_Letter"], [.otherLetter]),
   (["M", "Mark", "Combining_Mark"], [.nonspacingMark, .spacingMark, .enclosingMark]),
   (["Mn", "Nonspacing_Mark"], [.nonspacingMark]),
   (["Mc", "Spacing_Mark"], [.spacingMark]),
   (["Me", "Enclosing_Mark"], [.enclosingMark]),
   (["N", "Number"], [.decimalNumber, .letterNumber, .otherNumber]),
   (["Nd", "Decimal_Number", "digit"], [.decimalNumber]),
   (["Nl", "Letter_Number"], [.letterNumber]),
   (["No", "Other_Number"], [.otherNumber]),
   (["P", "Punctuation", "punct"], [.connectorPunctuation, .dashPunctuation, .openPunctuation,
     .closePunctuation, .initialPunctuation, .finalPunctuation, .otherPunctuation]),
   (["Pc", "Connector_Punctuation"], [.connectorPunctuation]),
   (["Pd", "Dash_Punctuation"], [.dashPunctuation]),
   (["Ps", "Open_Punctuation"], [.openPunctuation]),
   (["Pe", "Close_Punctuation"], [.closePunctuation]),
   (["Pi", "Initial_Punctuation"], [.initialPunctuation]),
   (["Pf", "Final_Punctuation"], [.finalPunctuation]),
   (["Po", "Other_Punctuation"], [.otherPunctuation]),
   (["S", "Symbol"], [.mathSymbol, .currencySymbol, .modifierSymbol, .otherSymbol]),
   (["Sm", "Math_Symbol"], [.mathSymbol]),
   (["Sc", "Currency_Symbol"], [.currencySymbol]),
   (["Sk", "Modifier_Symbol"], [.modifierSymbol]),
   (["So", "Other_Symbol"], [.otherSymbol]),
   (["Z", "Separator"], [.spaceSeparator, .lineSeparator, .paragraphSeparator]),
   (["Zs", "Space_Separator"], [.spaceSeparator]),
   (["Zl", "Line_Separator"], [.lineSeparator]),
   (["Zp", "Paragraph_Separator"], [.paragraphSeparator]),
   (["C", "Other"], [.control, .format, .privateUse, .unassigned]),
   (["Cc", "Control", "cntrl"], [.control]),
   (["Cf", "Format"], [.format]),
   (["Co", "Private_Use"], [.privateUse]),
   (["Cn", "Unassigned"], [.unassigned])]

def propertyNames : List (List String × Property) :=
  [(["Lower", "Lowercase"], .lowercase), (["Upper", "Uppercase"], .uppercase), (["Cased"], .cased),
   (["CI", "Case_Ignorable"], .caseIgnorable), (["Alpha", "Alphabetic"], .alphabetic), (["Math"], .math),
   (["IDS", "ID_Start"], .idStart), (["IDC", "ID_Continue"], .idContinue),
   (["XIDS", "XID_Start"], .xidStart), (["XIDC", "XID_Continue"], .xidContinue),
   (["Gr_Ext", "Grapheme_Extend"], .graphemeExtend), (["Gr_Base", "Grapheme_Base"], .graphemeBase),
   (["CWCM", "Changes_When_Casemapped"], .changesWhenCasemapped),
   (["CWCF", "Changes_When_Casefolded"], .changesWhenCasefolded),
   (["CWL", "Changes_When_Lowercased"], .changesWhenLowercased),
   (["CWT", "Changes_When_Titlecased"], .changesWhenTitlecased),
   (["CWU", "Changes_When_Uppercased"], .changesWhenUppercased),
   (["OLower", "Other_Lowercase"], .otherLowercase), (["OUpper", "Other_Uppercase"], .otherUppercase),
   (["OAlpha", "Other_Alphabetic"], .otherAlphabetic), (["OMath", "Other_Math"], .otherMath),
   (["OIDS", "Other_ID_Start"], .otherIdStart), (["OIDC", "Other_ID_Continue"], .otherIdContinue),
   (["OGr_Ext", "Other_Grapheme_Extend"], .otherGraphemeExtend),
   (["ODI", "Other_Default_Ignorable_Code_Point"], .otherDefaultIgnorableCodePoint),
   (["AHex", "ASCII_Hex_Digit"], .asciiHexDigit), (["Hex", "Hex_Digit"], .hexDigit),
   (["WSpace", "White_Space", "space"], .whiteSpace), (["Bidi_C", "Bidi_Control"], .bidiControl),
   (["Bidi_M", "Bidi_Mirrored"], .bidiMirrored), (["Dash"], .dash), (["Hyphen"], .hyphen),
   (["QMark", "Quotation_Mark"], .quotationMark), (["Term", "Terminal_Punctuation"], .terminalPunctuation),
   (["STerm", "Sentence_Terminal"], .sentenceTerminal),
   (["DI", "Default_Ignorable_Code_Point"], .defaultIgnorableCodePoint), (["Dep", "Deprecated"], .deprecated),
   (["Dia", "Diacritic"], .diacritic), (["Ext", "Extender"], .extender), (["Emoji"], .emoji),
   (["EComp", "Emoji_Component"], .emojiComponent), (["EMod", "Emoji_Modifier"], .emojiModifier),
   (["EBase", "Emoji_Modifier_Base"], .emojiModifierBase),
   (["EPres", "Emoji_Presentation"], .emojiPresentation),
   (["ExtPict", "Extended_Pictographic"], .extendedPictographic),
   (["IDSB", "IDS_Binary_Operator"], .idsBinaryOperator),
   (["IDST", "IDS_Trinary_Operator"], .idsTrinaryOperator), (["IDSU", "IDS_Unary_Operator"], .idsUnaryOperator),
   (["ID_Compat_Math_Start"], .idCompatMathStart), (["ID_Compat_Math_Continue"], .idCompatMathContinue),
   (["Ideo", "Ideographic"], .ideographic), (["Gr_Link", "Grapheme_Link"], .graphemeLink),
   (["MCM", "Modifier_Combining_Mark"], .modifierCombiningMark),
   (["Join_C", "Join_Control"], .joinControl), (["LOE", "Logical_Order_Exception"], .logicalOrderException),
   (["NChar", "Noncharacter_Code_Point"], .noncharacterCodePoint),
   (["Pat_Syn", "Pattern_Syntax"], .patternSyntax), (["Pat_WS", "Pattern_White_Space"], .patternWhiteSpace),
   (["PCM", "Prepended_Concatenation_Mark"], .prependedConcatenationMark), (["Radical"], .radical),
   (["RI", "Regional_Indicator"], .regionalIndicator), (["SD", "Soft_Dotted"], .softDotted),
   (["UIdeo", "Unified_Ideograph"], .unifiedIdeograph), (["VS", "Variation_Selector"], .variationSelector)]

def category? (loose : List Char) : Option RangeSet :=
  if loose == "any".toList then some .all
  else if loose == "assigned".toList then some Category.unassigned.ranges.complement
  else if loose == "ascii".toList then some (.interval 0 0x7F)
  else (categoryNames.find? (·.1.any (sameName loose))).map fun entry => .ofCategories entry.2

def script? (loose : List Char) : Option Script :=
  Script.all.find? fun s => sameName loose s.name || s.shortNames.any (sameName loose)

def property? (loose : List Char) : Option Property :=
  (propertyNames.find? (·.1.any (sameName loose))).map (·.2)

/-- The class a single name stands for: a property, else a category, else a script. The short names of three
categories are kept for them. -/
def namedClass? (name : List Char) : Option RangeSet :=
  let loose := looseName name
  let reserved := loose == "cf".toList || loose == "sc".toList || loose == "lc".toList
  let byProperty := if reserved then none else (property? loose).map (·.ranges)
  (byProperty.or (category? loose)).or ((script? loose).map (·.ranges))

def age? (loose : List Char) : Option RangeSet :=
  Edition.assignedBy? (fun e => sameName loose e.name || sameName loose e.longName) Edition.all

def graphemeBreak? (loose : List Char) : Option GraphemeBreak :=
  GraphemeBreak.all.find? (·.names.any (sameName loose))

def wordBreak? (loose : List Char) : Option WordBreak := WordBreak.all.find? (·.names.any (sameName loose))

def sentenceBreak? (loose : List Char) : Option SentenceBreak :=
  SentenceBreak.all.find? (·.names.any (sameName loose))

/-- Properties with more values than yes and no. -/
inductive ValuedProperty where
  | category
  | script
  | scriptExtensions
  | age
  | graphemeBreak
  | wordBreak
  | sentenceBreak
  deriving DecidableEq, Inhabited

def valuedPropertyNames : List (List String × ValuedProperty) :=
  [(["gc", "General_Category"], .category), (["sc", "Script"], .script),
   (["scx", "Script_Extensions"], .scriptExtensions), (["Age"], .age),
   (["GCB", "Grapheme_Cluster_Break"], .graphemeBreak), (["WB", "Word_Break"], .wordBreak),
   (["SB", "Sentence_Break"], .sentenceBreak)]

/-- The code points for which the property has the value of a name. An edition stands for all that was assigned by
then. -/
def ValuedProperty.class? (property : ValuedProperty) (loose : List Char) : Option RangeSet :=
  match property with
  | .category => category? loose
  | .script => (script? loose).map (·.ranges)
  | .scriptExtensions => (script? loose).map (·.extensions)
  | .age => age? loose
  | .graphemeBreak => (graphemeBreak? loose).map (·.ranges)
  | .wordBreak => (wordBreak? loose).map (·.ranges)
  | .sentenceBreak => (sentenceBreak? loose).map (·.ranges)

/-- The class of the code points for which a named property has a given value. -/
def valuedClass? (property value : List Char) : Option RangeSet :=
  let loose := looseName property
  (valuedPropertyNames.find? (·.1.any (sameName loose))).bind (·.2.class? (looseName value))

end GrammarCheck.Unicode
