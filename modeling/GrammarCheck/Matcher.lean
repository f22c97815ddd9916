import GrammarCheck.Definition
import GrammarCheck.Regex.Replace
import GrammarCheck.Text.Case

/-! Compiled values. A literal is held in lowercase if case does not matter; a pattern has to match the whole of a
text. -/

namespace GrammarCheck

inductive Matcher where
  | literal (text : String)
  | regex (source : String) (anchored : Regex)
  deriving Inhabited

namespace Matcher

def ofLiteral (text : String) (caseSensitive : Bool) : Matcher :=
  .literal (if caseSensitive then text else Text.lowercase text)

/-- The pattern that matches a whole text. -/
def anchor (source : String) (caseSensitive : Bool) : String :=
  (if caseSensitive then "^(?:" else "(?i)^(?:") ++ source ++ ")$"

def ofRegex (source : String) (caseSensitive : Bool) : Except Regex.Error Matcher :=
  (Regex.ofString (anchor source caseSensitive)).map (.regex source)

def ofValue (value : Value) (caseSensitive : Bool) : Except Regex.Error Matcher :=
  match value with
  | .literal text => .ok (ofLiteral text caseSensitive)
  | .regex source => ofRegex source caseSensitive

def accepts (m : Matcher) (text : String) (caseSensitive : Bool) : Bool :=
  match m with
  | literal stored => if caseSensitive then text == stored else Text.eqLowercase text stored
  | regex _ anchored => anchored.isMatch text

/-- The value as it is shown. -/
def stored : Matcher → String
  | literal text => text
  | regex source _ => source

def isRegex : Matcher → Bool
  | literal _ => false
  | regex _ _ => true

def toValue : Matcher → Value
  | literal text => .literal text
  | regex source _ => .regex source

/-- Two patterns are the same if they are written the same. -/
instance : BEq Matcher where
  beq a b := a.toValue == b.toValue

end Matcher

end GrammarCheck
