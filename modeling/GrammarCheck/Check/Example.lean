import GrammarCheck.Check.Checker
import GrammarCheck.Text.Marker

/-! The examples of rules. An incorrect one marks what the rule has to report and may list corrections; in a correct one
there must be no match. A disambiguation rule has to leave the readings of an untouched example as they are, and to
turn the readings of the marked token of an ambiguous one into those that are listed. -/

namespace GrammarCheck

/-- Why an example failed. -/
inductive ExampleFault where
  | noMarker
  | ambiguousNoMarker
  | search (e : MatchError)
  | notFound (expected : Span) (found : List Span)
  | missingCorrections (missing suggested : List String)
  | unexpectedMatch (found : List Span)
  | readingsChanged (word : String) (before after : List Reading)
  | noTokenAt (byte : Nat)
  | otherReadings (expected actual : List Reading)
  deriving DecidableEq, Inhabited

namespace ExampleFault

def spans (found : List Span) : String := Text.bracketed (found.map Span.render)

def texts (list : List String) : String := Text.bracketed (list.map Text.quoted)

def readings (list : List Reading) : String := Text.bracketed (list.map Reading.render)

/-- Readings without regard to order and repetition. -/
def readingSet (list : List Reading) : String :=
  Text.braced ((list.map Reading.render).eraseDups.mergeSort fun a b => a ≤ b)

def message : ExampleFault → String
  | noMarker => "incorrect example has no marker"
  | ambiguousNoMarker => "ambiguous example has no marker"
  | search e => e.message
  | notFound expected found => "expected a match at " ++ expected.render ++ ", found " ++ spans found
  | missingCorrections missing suggested =>
    "missing corrections " ++ texts missing ++ ", suggested " ++ texts suggested
  | unexpectedMatch found => "correct example matched at " ++ spans found
  | readingsChanged word before after =>
    "readings of " ++ Text.quoted word ++ " changed from " ++ readings before ++ " to " ++ readings after
  | noTokenAt byte => s!"no token starts at byte {byte}"
  | otherReadings expected actual =>
    "expected readings " ++ readingSet expected ++ ", got " ++ readingSet actual

end ExampleFault

structure ExampleFailure where
  ruleId : String
  subId : String
  text : String
  fault : ExampleFault
  deriving DecidableEq, Inhabited

def ExampleFailure.message (f : ExampleFailure) : String :=
  f.ruleId ++ "[" ++ f.subId ++ "]: " ++ f.fault.message ++ " in " ++ Text.quoted f.text

namespace Example

/-- What examples are run with. -/
structure Setting where
  analyze : String → List Sentence
  limit : Option Nat
  disambiguation : List DisambiguationRule
  deriving Inhabited

/-- Neighbours with the same ids. -/
def siblings {α : Type} (ids : α → String × String) (rules : List α) : List (List α) :=
  rules.splitBy fun a b => ids a == ids b

def failOf {α : Type} : Except ExampleFault α → Option ExampleFault
  | .ok _ => none
  | .error e => some e

def reportsIn (setting : Setting) (s : Sentence) : List Rule → Except ExampleFault (List Report)
  | [] => .ok []
  | r :: rest => do
    let ms ← (r.findMatches s setting.limit).mapError .search
    let others ← reportsIn setting s rest
    pure (ms.map (Report.ofMatch r s) ++ others)

/-- All matches of rules in a text, once it has been disambiguated. -/
def reports (setting : Setting) (rules : List Rule) (text : String) : Except ExampleFault (List Report) := do
  let found ← (setting.analyze text).mapM fun s =>
    reportsIn setting (disambiguate setting.disambiguation setting.limit s) rules
  pure found.flatten

def corrections (list : String) : List String := (Text.splitAtChar '|' list.toList).map String.ofList

def checkIncorrect (setting : Setting) (rules : List Rule) (text : String) (correction : Option String) :
    Except ExampleFault Unit := do
  let (plain, marker) := Text.Marker.strip text
  match marker with
  | none => throw .noMarker
  | some marker =>
    let found ← reports setting rules plain
    match found.find? (·.bytes == marker) with
    | none => throw (.notFound marker (found.map (·.bytes)))
    | some report =>
      let expected := (correction.map corrections).getD []
      let missing := expected.filter (!report.suggestions.contains ·)
      if !missing.isEmpty then throw (.missingCorrections missing report.suggestions)

def checkCorrect (setting : Setting) (rules : List Rule) (text : String) : Except ExampleFault Unit := do
  let found ← reports setting rules text
  if !found.isEmpty then throw (.unexpectedMatch (found.map (·.bytes)))

def checkGrammarExample (setting : Setting) (rules : List Rule) : ExampleDef → Option (String × ExampleFault)
  | .incorrect text correction => (failOf (checkIncorrect setting rules text correction)).map (text, ·)
  | .correct text => (failOf (checkCorrect setting rules text)).map (text, ·)

/-- The failures among the examples that rules of one definition share. -/
def grammarFailures (setting : Setting) (rules : List Rule) : List ExampleFailure :=
  match rules with
  | [] => []
  | first :: _ =>
    (first.examples.filterMap (checkGrammarExample setting rules)).map fun (text, fault) =>
      ⟨first.id, first.subId, text, fault⟩

/-- Runs the rules of one definition in order. -/
def runSiblings (limit : Option Nat) : List DisambiguationRule → Sentence → Except ExampleFault Sentence
  | [], s => .ok s
  | r :: rest, s =>
    match r.run s limit with
    | (s, .ok _) => runSiblings limit rest s
    | (_, .error e) => .error (.search e)

def firstChange (before after : Sentence) : Option ExampleFault :=
  ((before.tokens.zip after.tokens).find? fun (a, b) => a.readings != b.readings).map fun (a, b) =>
    .readingsChanged a.text a.readings b.readings

def checkUntouchedSentence (setting : Setting) (rules : List DisambiguationRule) (s : Sentence) :
    Except ExampleFault Unit := do
  let after ← runSiblings setting.limit rules s
  match firstChange s after with
  | some fault => throw fault
  | none => pure ()

def checkUntouched (setting : Setting) (rules : List DisambiguationRule) (text : String) :
    Except ExampleFault Unit :=
  (setting.analyze text).forM (checkUntouchedSentence setting rules)

/-- The sentence and the token of it that start at a byte; opening tokens do not count. -/
def tokenAt? (sentences : List Sentence) (byte : Nat) : Option (Sentence × Nat) :=
  sentences.findSome? fun s =>
    (s.tokens.findIdx? fun t => !t.isSentenceStart && t.start == byte).map (s, ·)

def sameReadings (a b : List Reading) : Bool := a.all b.contains && b.all a.contains

def checkAmbiguous (setting : Setting) (rules : List DisambiguationRule) (text : String)
    (input output : List Reading) : Except ExampleFault Unit := do
  let (plain, marker) := Text.Marker.strip text
  match marker with
  | none => throw .ambiguousNoMarker
  | some marker =>
    match tokenAt? (setting.analyze plain) marker.start with
    | none => throw (.noTokenAt marker.start)
    | some (s, i) =>
      let after ← runSiblings setting.limit rules (s.modifyToken i (·.setReadings input))
      let actual := ((after.token? i).map (·.readings)).getD []
      if !sameReadings actual output then throw (.otherReadings output actual)

def checkDisambiguationExample (setting : Setting) (rules : List DisambiguationRule) :
    DisambiguationExample → Option (String × ExampleFault)
  | .untouched text => (failOf (checkUntouched setting rules text)).map (text, ·)
  | .ambiguous text input output => (failOf (checkAmbiguous setting rules text input output)).map (text, ·)

/-- The failures among the examples that disambiguation rules of one definition share. -/
def disambiguationFailures (setting : Setting) (rules : List DisambiguationRule) : List ExampleFailure :=
  match rules with
  | [] => []
  | first :: _ =>
    (first.examples.filterMap (checkDisambiguationExample setting rules)).map fun (text, fault) =>
      ⟨first.rule.id, first.rule.subId, text, fault⟩

end Example

namespace RuleSet

/-- The failures among all examples: first those of disambiguation rules, each run by itself, then those of the other
rules, run on what the disambiguation rules leave. -/
def failures (set : RuleSet) (analyze : String → List Sentence) (limit : Option Nat) : List ExampleFailure :=
  let setting : Example.Setting := ⟨analyze, limit, set.disambiguation⟩
  (Example.siblings (fun r => (r.rule.id, r.rule.subId)) set.disambiguation).flatMap
      (Example.disambiguationFailures setting) ++
    (Example.siblings (fun r => (r.id, r.subId)) set.grammar).flatMap (Example.grammarFailures setting)

end RuleSet

inductive ValidationError where
  | load (e : LoadError)
  | examples (failures : List ExampleFailure)
  deriving DecidableEq, Inhabited

namespace RuleSet

/-- Loads rules and runs their examples. -/
def loadValidatedWith (source : String) (analyze : String → List Sentence) (limit : Option Nat) :
    Except ValidationError RuleSet := do
  let set ← (RuleSet.load source).mapError .load
  let failures := set.failures analyze limit
  if failures.isEmpty then pure set else throw (.examples failures)

/-- Loads rules and runs their examples on sentences with readings from a dictionary. -/
def loadValidated (source : String) (dictionary : Option Dictionary) (limit : Option Nat) :
    Except ValidationError RuleSet :=
  loadValidatedWith source (Analysis.analyze dictionary) limit

end RuleSet

def ValidationError.examplesMessage (failures : List ExampleFailure) : String :=
  s!"{failures.length} rule examples failed"

end GrammarCheck
