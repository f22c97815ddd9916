import GrammarCheck.Analysis.Analyzer
import GrammarCheck.Check.SentenceStart
import GrammarCheck.Disambiguation.Run

/-! Checking sentences and texts. A text is analyzed and disambiguated, each rule looks at each sentence, and rules on
the whole text come last. A rule that fails on a sentence has no findings in it. -/

namespace GrammarCheck

structure CheckOptions where
  /-- The number of points that the search for the matches of a rule in a sentence may visit. -/
  limit : Option Nat := none
  /-- Are findings on immunized tokens left out? -/
  skipImmunized : Bool := true
  deriving DecidableEq, Inhabited

/-- A rule on the sentences of a text. -/
abbrev TextRule := List Sentence → List Report

structure Checker where
  rules : RuleSet
  textRules : List TextRule
  options : CheckOptions

namespace Checker

def new (rules : RuleSet) (options : CheckOptions) : Checker := ⟨rules, [], options⟩

def isImmunized (s : Sentence) (m : Match) : Bool := (s.slice m.range).any (·.immunized)

/-- The matches of a rule that are reported. -/
def reportsOf (options : CheckOptions) (s : Sentence) (r : Rule) : List Report :=
  if r.canBeIgnored s.index then []
  else
    let ms := (r.findMatches s options.limit).toOption.getD []
    (ms.filter fun m => !(options.skipImmunized && isImmunized s m)).map (Report.ofMatch r s)

/-- Rules of one definition may find the same tokens; these are reported once. -/
def addNew (reports : List Report) (r : Report) : List Report :=
  if reports.any (·.sameFinding r) then reports else reports ++ [r]

/-- The findings in a sentence that has been disambiguated. -/
def checkSentence (c : Checker) (s : Sentence) : List Report :=
  let s := s.withIndex
  (c.rules.grammar.flatMap (reportsOf c.options s)).foldl addNew []

def disambiguate (c : Checker) (s : Sentence) : Sentence :=
  GrammarCheck.disambiguate c.rules.disambiguation c.options.limit s

/-- The findings in a text that is cut into sentences in some way, in the order of the bytes they cover. -/
def checkTextWith (c : Checker) (analyze : String → List Sentence) (text : String) : List Report :=
  let sentences := (analyze text).map c.disambiguate
  let reports := sentences.flatMap c.checkSentence ++ c.textRules.flatMap fun rule => rule sentences
  reports.mergeSort Report.before

def checkText (c : Checker) (dictionary : Option Dictionary) (text : String) : List Report :=
  c.checkTextWith (Analysis.analyze dictionary) text

end Checker

end GrammarCheck
