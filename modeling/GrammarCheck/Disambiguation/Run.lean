import GrammarCheck.Disambiguation.Basic
import GrammarCheck.Match

/-! Running disambiguation rules. All matches of a rule are found before the first one is acted on; an action that does
not fit its match changes nothing and ends the run of the rule. Rules run in order, each on what the ones before it
left. -/

namespace GrammarCheck

namespace Removal

/-- Is a reading removed, given the one that is listed for its token? -/
def removes (target : Removal) (listed : Option Reading) (r : Reading) : Bool :=
  match target, listed with
  | perToken _, some filter => filter.agreesWith r
  | perToken _, none => false
  | matching base tag, _ => base.all (r.base == some ·) && tag.all fun m => r.tag.any (m.accepts · true)

end Removal

/-- Work on a sentence in place: what was changed before a failure stays changed. -/
abbrev Editing := EStateM MatchError Sentence

namespace Action

def expect (a : Action) (expected : Nat) (span : Span) : Editing Unit :=
  if span.size = expected then pure () else throw (.spanMismatch a.kind expected span.size)

def editToken (i : Nat) (f : Token → Token) : Editing Unit := modify (·.modifyToken i f)

/-- Changes the tokens of a span in order. -/
def editSpan (span : Span) (f : Token → Token) : Editing Unit := span.indices.forM fun i => editToken i f

/-- Changes the tokens of a span in order, each along with an item of a list. -/
def editEach {α : Type} (span : Span) (items : List α) (f : α → Token → Token) : Editing Unit :=
  (span.indices.zip items).forM fun pair => editToken pair.1 (f pair.2)

/-- The first base form under a tag, or no information if there is no tag. -/
def retag (tag : Option String) (t : Token) : Token :=
  t.setReadings [match tag with
    | some tag => ⟨t.readings.head?.bind (·.base), some tag⟩
    | none => .untagged]

/-- Does the action on the tokens of a match. -/
def apply (a : Action) (m : Match) : Editing Unit :=
  let span := m.range
  match a with
  | .replace [] tag => do
    a.expect 1 span
    editToken span.start (retag tag)
  | .replace readings _ => do
    a.expect readings.length span
    editEach span readings fun r t => t.setReadings [r]
  | .add readings => do
    a.expect readings.length span
    editEach span readings fun r t => t.addReading r
  | .remove (.perToken readings) => do
    a.expect readings.length span
    editEach span readings fun r t => t.removeReadings ((Removal.perToken readings).removes (some r))
  | .remove target => editSpan span (·.removeReadings (target.removes none))
  | .filter reference => do
    a.expect 1 span
    editToken span.start fun t => t.setReadings (reference.filterReadings t)
  | .unify =>
    if m.markerUnifiedTokens = span.size then pure ()
    else throw (.spanMismatch .unify span.size m.markerUnifiedTokens)
  | .immunize => editSpan span Token.immunize
  | .ignoreSpelling => editSpan span Token.acceptSpelling

/-- Acts on matches in order, up to the first one that does not fit. -/
def applyAll (a : Action) (ms : List Match) : Editing Unit := ms.forM a.apply

end Action

namespace DisambiguationRule

/-- Runs the rule: the sentence afterwards, and the number of matches or what went wrong. -/
def run (r : DisambiguationRule) (s : Sentence) (limit : Option Nat) : Sentence × Except MatchError Nat :=
  match r.rule.findMatches s limit with
  | .error e => (s, .error e)
  | .ok ms =>
    match (r.action.applyAll ms).run s with
    | .ok _ s => (s, .ok ms.length)
    | .error e s => (s, .error e)

/-- Runs the rule unless a word that it needs is missing; what goes wrong is passed over. -/
def runIfNeeded (limit : Option Nat) (s : Sentence) (r : DisambiguationRule) : Sentence :=
  let s := s.withIndex
  if r.rule.canBeIgnored s.index then s else (r.run s limit).1

end DisambiguationRule

/-- Runs rules in order. -/
def disambiguate (rules : List DisambiguationRule) (limit : Option Nat) (s : Sentence) : Sentence :=
  rules.foldl (DisambiguationRule.runIfNeeded limit) s

end GrammarCheck
