import GrammarCheck.Rule.Compile

/-! Rules that change readings. The action of a rule is done on the tokens under its marker; if it says something about
each token, the number of tokens has to be right. -/

namespace GrammarCheck

inductive Removal where
  /-- One reading for each token; what it leaves out may be anything. -/
  | perToken (readings : List Reading)
  /-- All readings with the base form and the tag. -/
  | matching (base : Option String) (tag : Option Matcher)
  deriving Inhabited, BEq

inductive Action where
  /-- One new reading for each token; without readings, the first base form under a tag. -/
  | replace (readings : List Reading) (tag : Option String)
  | add (readings : List Reading)
  | remove (target : Removal)
  /-- Keeps the readings that the reference selects. -/
  | filter (reference : Reference)
  /-- Checks that all tokens took part in agreement. -/
  | unify
  | immunize
  | ignoreSpelling
  deriving Inhabited, BEq

def Action.kind : Action → ActionKind
  | replace _ _ => .replace
  | add _ => .add
  | remove _ => .remove
  | filter _ => .filter
  | unify => .unify
  | immunize => .immunize
  | ignoreSpelling => .ignoreSpelling

def Action.name (a : Action) : String := a.kind.name

structure DisambiguationRule where
  rule : Rule
  action : Action
  examples : List DisambiguationExample
  deriving Inhabited

namespace Compile

/-- The number of readings has to be that of the marked tokens, if that is known. -/
def checkReadingCount (action : ActionKind) (readings : Nat) : Option Nat → Fallible Unit
  | none => .ok ()
  | some tokens => if tokens = readings then .ok () else .error (.readingCount action readings tokens)

def checkSingleToken (action : ActionKind) : Option Nat → Fallible Unit
  | none => .ok ()
  | some tokens => if tokens = 1 then .ok () else .error (.severalTokens action tokens)

def removal (d : DisambiguationDef) (tokens : Option Nat) : Fallible Removal := do
  if !d.readings.isEmpty then
    checkReadingCount .remove d.readings.length tokens
    pure (.perToken d.readings)
  else if d.action.tag.isSome || d.action.base.isSome then
    let tag ← (d.action.tag.mapM (Matcher.ofValue · true)).mapError .invalidRegex
    pure (.matching d.action.base tag)
  else .error (.missingTarget .remove)

/-- The reference to the first marked token by which readings are filtered. -/
def filterReference (d : DisambiguationDef) (r : Rule) (tokens : Option Nat) : Fallible Reference := do
  checkSingleToken .filter tokens
  match d.action.tag with
  | none => .error (.missingTarget .filter)
  | some value =>
    let tagFilter ← (Matcher.ofValue value true).mapError .invalidRegex
    pure {
      position := (r.elements[r.marker.start]?.map (·.position + 1)).getD 1
      tagFilter := some tagFilter
      tagReplacement := d.action.tagReplacement }

def action (d : DisambiguationDef) (r : Rule) : Fallible Action := do
  let tokens := r.fixedMarkerLength?
  match d.action.kind with
  | .replace =>
    if d.readings.isEmpty then checkSingleToken .replace tokens
    else checkReadingCount .replace d.readings.length tokens
    pure (.replace d.readings (d.action.tag.map (·.source)))
  | .add =>
    if d.readings.isEmpty then .error (.missingTarget .add)
    else
      checkReadingCount .add d.readings.length tokens
      pure (.add d.readings)
  | .remove => return .remove (← removal d tokens)
  | .filter => return .filter (← filterReference d r tokens)
  | .unify =>
    if r.markerAgreementCount = r.marker.size then pure .unify
    else .error (.unifyCount r.markerAgreementCount r.marker.size)
  | .immunize => pure .immunize
  | .ignoreSpelling => pure .ignoreSpelling

def disambiguationRule (context : RuleContext) (d : DisambiguationDef) (disjunctive : Bool) (p : CompiledPattern) :
    Except CompileError DisambiguationRule := do
  let r := bareRule context d.id "1" d.description d.location disjunctive p
  let a ← locate d.id d.action.location (action d r)
  pure ⟨r, a, d.examples⟩

/-- The disambiguation rules of a definition. -/
def disambiguationRules (context : RuleContext) (d : DisambiguationDef) :
    Except CompileError (List DisambiguationRule) := do
  let ps ← patterns context d.id d.pattern
  ps.mapM (disambiguationRule context d (1 < ps.length))

end Compile

end GrammarCheck
