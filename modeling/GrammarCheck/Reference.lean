import GrammarCheck.Matcher
import GrammarCheck.Binding

/-! References from messages and actions to the tokens of a match. A reference gives the text of a token, or of a run of
tokens, or the tag of a reading, after replacements and a change of case. -/

namespace GrammarCheck

open Text (CaseConversion)

/-- Which tokens a reference takes in besides the first one of its position. -/
inductive Skipped where
  | none
  /-- The tokens after the first one, up to the next position. -/
  | following
  /-- The first token and those after it. -/
  | all
  deriving DecidableEq, Inhabited

/-- A reference as it is written. -/
structure ReferenceDef where
  position : Nat := 0
  tagFilter : Option Value := none
  tagReplacement : Option String := none
  textPattern : Option String := none
  textReplacement : Option String := none
  conversion : CaseConversion := .keep
  showTag : Bool := false
  hideMisspelled : Bool := false
  skipped : Skipped := .none
  deriving DecidableEq, Inhabited

structure Replacement where
  pattern : Regex
  text : String
  deriving Inhabited

namespace Replacement

def apply (r : Replacement) (text : String) : String := r.pattern.replaceAll text r.text

instance : BEq Replacement where
  beq a b := a.pattern.source == b.pattern.source && a.text == b.text

end Replacement

structure Reference where
  /-- Counted from one. -/
  position : Nat
  /-- Picks the first reading whose tag it accepts. -/
  tagFilter : Option Matcher := none
  tagReplacement : Option String := none
  replacement : Option Replacement := none
  conversion : CaseConversion := .keep
  showTag : Bool := false
  hideMisspelled : Bool := false
  skipped : Skipped := .none
  deriving Inhabited, BEq

namespace Reference

def compile (d : ReferenceDef) : Except Regex.Error Reference := do
  let tagFilter ← d.tagFilter.mapM (Matcher.ofValue · true)
  let pattern ← d.textPattern.mapM Regex.ofString
  pure {
    tagFilter
    position := d.position
    tagReplacement := d.tagReplacement
    replacement := pattern.map fun p => ⟨p, d.textReplacement.getD ""⟩
    conversion := d.conversion
    showTag := d.showTag
    hideMisspelled := d.hideMisspelled
    skipped := d.skipped }

def acceptsTag (r : Reference) (reading : Reading) : Bool :=
  r.tagFilter.all fun m => reading.tag.any (m.accepts · true)

/-- The first reading that passes the filter. -/
def selectReading? (r : Reference) (token : Token) : Option Reading := token.readings.find? r.acceptsTag

/-- A replacement for the tag is applied to the filter's pattern, or takes the place of the tag if there is none. -/
def replaceTag (r : Reference) (tag : String) : String :=
  match r.tagReplacement, r.tagFilter with
  | some replacement, some (.regex _ anchored) => anchored.replaceFirst tag replacement
  | some replacement, _ => replacement
  | none, _ => tag

/-- The readings that pass the filter, with their tags replaced. -/
def filterReadings (r : Reference) (token : Token) : List Reading :=
  (token.readings.filter r.acceptsTag).map fun reading => { reading with tag := reading.tag.map r.replaceTag }

/-- The span of the tokens that a reference shows, for the span of its position. -/
def shownSpan (r : Reference) (b : Bindings) (span : Span) : Span :=
  match r.skipped with
  | .none => ⟨span.start, span.start + 1⟩
  | .following => ⟨span.start + 1, b.followingStop r.position⟩
  | .all => ⟨span.start, b.followingStop r.position⟩

def surface (r : Reference) (b : Bindings) (span : Span) (token : Token) : String :=
  let text := match r.skipped with
    | .none => token.text
    | _ => b.joinedText (r.shownSpan b span)
  match r.replacement with
  | some replacement => replacement.apply text
  | none => text

def tagText (r : Reference) (token : Token) : String :=
  match (r.selectReading? token).bind (·.tag) with
  | some tag => r.replaceTag tag
  | none => token.text

/-- The text of a reference. There is none if its position is not bound, or if misspelled tokens are hidden and its
token is one; a position that took no token gives the empty text. -/
def resolve? (r : Reference) (b : Bindings) : Option String := do
  let span ← b.span? r.position
  if span.isEmpty then pure ""
  else
    let token ← b.sentence.token? span.start
    if r.hideMisspelled && token.misspelled then none
    else pure (r.conversion.apply (if r.showTag then r.tagText token else r.surface b span token))

end Reference

end GrammarCheck
