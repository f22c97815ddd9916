import GrammarCheck.Rule.Basic
import GrammarCheck.Rule.Expansion

/-! Compiling definitions into rules. A definition with phrases gives several rules, and one with a fault gives
none. -/

namespace GrammarCheck

namespace Compile

abbrev Fallible := Except CompileFault

def condition (d : ConditionDef) (patternCase : Bool) : Fallible Condition :=
  (Condition.compile d patternCase).mapError .invalidRegex

/-- A condition of an element, which may refer to earlier positions alone. -/
def backwardCondition (d : ConditionDef) (patternCase : Bool) (position : Nat) : Fallible Condition := do
  let c ← condition d patternCase
  match c.reference with
  | none => pure c
  | some n => if n = 0 ∨ position < n then .error (.badReference n position) else pure c

def checkBounds (t : TokenDef) : Fallible Unit :=
  match t.max with
  | .unbounded => .ok ()
  | .upTo max =>
    if max = 0 then .error .zeroMax
    else if max < t.min then .error (.minExceedsMax t.min max)
    else .ok ()

def tokenException (d : ExceptionDef) (patternCase : Bool) (position : Nat) : Fallible TokenException := do
  let c ← backwardCondition d.condition patternCase position
  pure ⟨c, d.scope⟩

def otherCondition (patternCase : Bool) (position : Nat) (t : TokenDef) : Fallible Condition :=
  if t.hasDefaultQuantifiers then backwardCondition t.condition patternCase position
  else .error .quantifierInGroup

/-- The element of a group of conditions; the exceptions of all of them count for it. -/
def element (g : TokenGroup) (position : Nat) (patternCase : Bool) : Fallible Element := do
  checkBounds g.first
  let condition ← backwardCondition g.first.condition patternCase position
  let exceptions ← ((g.first :: g.others).flatMap (·.exceptions)).mapM (tokenException · patternCase position)
  let others ← g.others.mapM (otherCondition patternCase position)
  pure {
    condition, others, exceptions, position
    min := g.first.min
    max := g.first.max
    skip := g.first.skip
    agreement := none }

/-- An element in its group of agreement, which may not end with it. -/
def inGroup (groups : List AgreementGroup) (e : Element) (index : Option Nat) : Element :=
  { e with agreement := index.bind fun i => groups[i]?.map fun g => ⟨i, g.features, g.negate, false⟩ }

/-- A group ends with an element if the next one is not in it. -/
def markLast (e : Element) (next : Option Element) : Element :=
  { e with
    agreement := e.agreement.map fun slot =>
      { slot with last := (next.bind (·.agreement)).map (·.group) != some slot.group } }

def closeGroups : List Element → List Element
  | [] => []
  | e :: rest => markLast e rest.head? :: closeGroups rest

/-- The span from the first marked token to the last one; without a mark, all tokens. -/
def markerSpan (sequence : List PlannedToken) : Span :=
  match sequence.findIdx? (·.inMarker), sequence.reverse.findIdx? (·.inMarker) with
  | some first, some fromEnd => ⟨first, sequence.length - fromEnd⟩
  | _, _ => ⟨0, sequence.length⟩

structure CompiledPattern where
  elements : List Element
  elementCounts : List Nat
  marker : Span
  deriving Inhabited

/-- The rule in which a fault was found, and where. -/
def locate {α : Type} (ruleId : String) (location : Location) (result : Fallible α) : Except CompileError α :=
  result.mapError (⟨location, ruleId, ·⟩)

def plannedElement (ruleId : String) (groups : List AgreementGroup) (patternCase : Bool) (t : PlannedToken) :
    Except CompileError Element := do
  let e ← locate ruleId t.group.first.location (element t.group t.position patternCase)
  pure (inGroup groups e t.agreement)

def pattern (ruleId : String) (count : ExpansionCount) (patternCase : Bool) (sequence : List PlannedToken) :
    Except CompileError CompiledPattern := do
  let elements ← sequence.mapM (plannedElement ruleId count.groups patternCase)
  pure {
    elements := closeGroups elements
    elementCounts := (List.range count.positions).map fun p => sequence.countP (·.position == p)
    marker := markerSpan sequence }

def patterns (context : RuleContext) (ruleId : String) (d : PatternDef) :
    Except CompileError (List CompiledPattern) := do
  let (sequences, count) ← (context.expand d.items).mapError fun (location, fault) => ⟨location, ruleId, fault⟩
  if count.positions = 0 then pure []
  else sequences.mapM (pattern ruleId count d.caseSensitive)

/-- A template whose references are positions of the pattern. -/
def template (source : String) (positions : Nat) : Fallible Template := do
  let t ← (Template.parse source).mapError .template
  match t.references.find? fun r => r.position = 0 ∨ positions < r.position with
  | some r => .error (.badReference r.position positions)
  | none => pure t

/-- A rule without texts. -/
def bareRule (context : RuleContext) (id subId description : String) (location : Location) (disjunctive : Bool)
    (p : CompiledPattern) : Rule where
  id := id
  subId := subId
  description := description
  elements := p.elements
  elementCounts := p.elementCounts
  marker := p.marker
  message := ⟨[]⟩
  shortMessage := none
  suggestions := []
  disjunctive := disjunctive
  allowOverlap := false
  features := context.features
  examples := []
  location := location

structure Texts where
  message : Template
  shortMessage : Option Template
  suggestions : List Template
  deriving Inhabited

def texts (d : RuleDef) (positions : Nat) : Fallible Texts := do
  let message ← template d.message positions
  let shortMessage ← d.shortMessage.mapM (template · positions)
  let suggestions ← d.suggestions.mapM (template · positions)
  pure ⟨message, shortMessage, suggestions⟩

/-- The rules of a definition. -/
def rules (context : RuleContext) (d : RuleDef) : Except CompileError (List Rule) := do
  let ps ← patterns context d.id d.pattern
  let positions := (ps.head?.map (·.elementCounts.length)).getD 0
  let t ← locate d.id d.location (texts d positions)
  pure (ps.map fun p =>
    { bareRule context d.id d.subId d.description d.location (1 < ps.length) p with
      message := t.message
      shortMessage := t.shortMessage
      suggestions := t.suggestions
      allowOverlap := d.allowOverlap
      examples := d.examples })

def featureTypes : List (String × ConditionDef) → Fallible (List (String × Condition))
  | [] => .ok []
  | (name, d) :: rest => do
    let c ← condition d false
    let others ← featureTypes rest
    pure ((name, c) :: others)

def feature (d : FeatureDef) : Except CompileError Feature :=
  locate ("unification " ++ d.name) d.location <|
    if Feature.maxTypes < d.types.length then .error (.tooManyTypes d.name d.types.length)
    else do
      let types ← featureTypes d.types
      pure ⟨d.name, types⟩

end Compile

def RuleContext.ofFile (file : RuleFile) : Except CompileError RuleContext := do
  let features ← file.features.mapM Compile.feature
  pure ⟨file.phrases, ⟨features⟩⟩

end GrammarCheck
