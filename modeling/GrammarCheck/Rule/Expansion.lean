import GrammarCheck.Rule.Fault
import GrammarCheck.Agreement

/-! The sequences of tokens that a pattern stands for. Each reference to a phrase is replaced by its alternatives in
turn, so a pattern with phrases has one sequence for each way to choose. The tokens of a phrase share the position of
the reference outside all phrases, and the marker and the group of agreement around it. -/

namespace GrammarCheck

/-- A token of a sequence and where in the pattern it stands. -/
structure PlannedToken where
  group : TokenGroup
  position : Nat
  inMarker : Bool
  agreement : Option Nat
  deriving DecidableEq, Inhabited

structure AgreementGroup where
  features : List Nat
  negate : Bool
  deriving DecidableEq, Inhabited

/-- What surrounds an item. -/
structure Surroundings where
  inMarker : Bool := false
  agreement : Option Nat := none
  /-- The position and the name of the phrases around: the outermost one's position, the innermost one's name. -/
  phrase : Option (Nat × String) := none
  deriving DecidableEq, Inhabited

/-- What has been counted so far in a pattern. -/
structure ExpansionCount where
  groups : List AgreementGroup := []
  markerSeen : Bool := false
  positions : Nat := 0
  deriving DecidableEq, Inhabited

/-- The phrases and features that the patterns of a file may use. -/
structure RuleContext where
  phrases : List PhraseDef
  features : FeatureTable
  deriving Inhabited

namespace RuleContext

/-- The phrase of a name that is defined last. -/
def phrase? (context : RuleContext) (name : String) : Option PhraseDef :=
  context.phrases.reverse.find? (·.name == name)

end RuleContext

namespace Expansion

abbrev Fallible := Except (Location × CompileFault)

abbrev Expander := StateT ExpansionCount Fallible

abbrev Sequences := List (List PlannedToken)

def fail {α : Type} (location : Location) (fault : CompileFault) : Expander α := fun _ => .error (location, fault)

/-- A phrase has one position for all its tokens; any other item takes the next one. -/
def takePosition (around : Surroundings) : Expander Nat := fun count =>
  match around.phrase with
  | some (position, _) => .ok (position, count)
  | none => .ok (count.positions, { count with positions := count.positions + 1 })

def appendToken (t : PlannedToken) (sequences : Sequences) : Sequences := sequences.map (· ++ [t])

def featureIndices (context : RuleContext) (location : Location) : List String → Expander (List Nat)
  | [] => pure []
  | name :: rest =>
    match context.features.index? name with
    | none => fail location (.unknownFeature name)
    | some i => do
      let others ← featureIndices context location rest
      pure (i :: others)

def newGroup (group : AgreementGroup) : Expander Nat := fun count =>
  .ok (count.groups.length, { count with groups := count.groups ++ [group] })

/-- Continues sequences by each alternative in turn. -/
def alternatives (body : List PatternItem → Sequences → Expander Sequences) (sequences : Sequences) :
    List (List PatternItem) → Expander Sequences
  | [] => pure []
  | items :: rest => do
    let first ← body items sequences
    let others ← alternatives body sequences rest
    pure (first ++ others)

mutual

/-- Continues sequences by an item; `enter` continues them by the items of a phrase, if phrases may still nest. -/
def item (context : RuleContext)
    (enter : Option (Surroundings → List PatternItem → Sequences → Expander Sequences)) (around : Surroundings) :
    PatternItem → Sequences → Expander Sequences
  | .tokens group, sequences => do
    let position ← takePosition around
    pure (appendToken ⟨group, position, around.inMarker, around.agreement⟩ sequences)
  | .phrase name location, sequences =>
    match context.phrase? name with
    | none => fail location (.unknownPhrase name)
    | some phrase =>
      match enter with
      | none => fail location (.recursivePhrase name)
      | some enter =>
        if around.phrase.any (·.2 == name) then fail location (.recursivePhrase name)
        else do
          let position ← takePosition around
          alternatives (enter { around with phrase := some (position, name) }) sequences phrase.alternatives
  | .marker inner location, sequences => do
    let count ← get
    if count.markerSeen || around.phrase.isSome then fail location .misplacedMarker
    set { count with markerSeen := true }
    items context enter { around with inMarker := true } inner sequences
  | .unify names negate inner location, sequences => do
    if around.agreement.isSome then fail location .nestedUnify
    let features ← featureIndices context location names
    let group ← newGroup ⟨features, negate⟩
    items context enter { around with agreement := some group } inner sequences

def items (context : RuleContext)
    (enter : Option (Surroundings → List PatternItem → Sequences → Expander Sequences)) (around : Surroundings) :
    List PatternItem → Sequences → Expander Sequences
  | [], sequences => pure sequences
  | first :: rest, sequences => do
    let sequences ← item context enter around first sequences
    items context enter around rest sequences

end

/-- Expands items in which phrases may nest to a number of levels. -/
def itemsAtDepth (context : RuleContext) : Nat → Surroundings → List PatternItem → Sequences → Expander Sequences
  | 0, around, pattern, sequences => items context none around pattern sequences
  | levels + 1, around, pattern, sequences =>
    items context (some (itemsAtDepth context levels)) around pattern sequences

def maxPhraseDepth : Nat := 16

end Expansion

/-- The sequences of a pattern, with what was counted in it. -/
def RuleContext.expand (context : RuleContext) (pattern : List PatternItem) :
    Expansion.Fallible (Expansion.Sequences × ExpansionCount) :=
  (Expansion.itemsAtDepth context Expansion.maxPhraseDepth {} pattern [[]]).run {}

end GrammarCheck
