import GrammarCheck.Matcher
import GrammarCheck.Binding

/-! Conditions on a token. Those on the base form and on the tag have to be met by one reading; a negated one on the tag
excludes it from all readings. -/

namespace GrammarCheck

structure Condition where
  text : Option Matcher := none
  inflected : Bool := false
  tag : Option Matcher := none
  negateTag : Bool := false
  negate : Bool := false
  caseSensitive : Bool := false
  spaceBefore : Option Bool := none
  /-- The surface text has to be that of an earlier position. -/
  reference : Option Nat := none
  deriving Inhabited, BEq

namespace Condition

def compile (d : ConditionDef) (patternCase : Bool) : Except Regex.Error Condition := do
  let caseSensitive := d.caseSensitive || patternCase
  let text ← d.text.mapM (Matcher.ofValue · caseSensitive)
  let tag ← d.tag.mapM (Matcher.ofValue · true)
  pure {
    text, tag, caseSensitive
    inflected := d.inflected
    negateTag := d.negateTag
    negate := d.negate
    spaceBefore := d.spaceBefore
    reference := d.reference }

def spaceHolds (c : Condition) (token : Token) : Bool := c.spaceBefore.all (token.spaceBefore == ·)

/-- A reference that is not resolved holds of no token. -/
def referenceHolds (c : Condition) (token : Token) (bindings : Option Bindings) : Bool :=
  match c.reference with
  | none => true
  | some position =>
    match bindings.bind (·.firstText? position) with
    | none => false
    | some text =>
      if c.caseSensitive then token.text == text else Text.eqLowercase token.text (Text.lowercase text)

def surfaceHolds (c : Condition) (token : Token) : Bool :=
  c.inflected || c.text.all (·.accepts token.text c.caseSensitive)

def baseHolds (c : Condition) (r : Reading) : Bool :=
  !c.inflected || c.text.all fun m => r.base.any (m.accepts · c.caseSensitive)

def tagHolds (c : Condition) (r : Reading) : Bool := c.tag.all fun m => r.tag.any (m.accepts · true)

def readingsHold (c : Condition) (token : Token) : Bool :=
  if c.tag.isSome && c.negateTag then token.readings.any c.baseHolds && !token.readings.any c.tagHolds
  else token.readings.any fun r => c.baseHolds r && c.tagHolds r

/-- Do the conditions hold before negation? -/
def evaluate (c : Condition) (token : Token) (bindings : Option Bindings) : Bool :=
  c.spaceHolds token && c.referenceHolds token bindings && c.surfaceHolds token && c.readingsHold token

def holds (c : Condition) (token : Token) (bindings : Option Bindings) : Bool :=
  c.evaluate token bindings != c.negate

/-- A lowercase word that a sentence has to hold for the condition to be met in it, and whether it is a base form. -/
def requiredWord? (c : Condition) : Option (String × Bool) :=
  if c.negate || c.reference.isSome then none
  else match c.text with
    | some (.literal text) => some (Text.lowercase text, c.inflected)
    | _ => none

end Condition

end GrammarCheck
