import GrammarCheck.Check.Checker

/-! Work on a text with rules that are loaded one file after another. Sentences keep what disambiguation and edits
change in them; findings do not change them. -/

namespace GrammarCheck

structure Session where
  rules : RuleSet := .empty
  dictionary : Option Dictionary := none
  options : CheckOptions := {}
  sentences : List Sentence := []
  deriving Inhabited

namespace Session

/-- Adds the rules of a file to those that are there. -/
def load (session : Session) (source : String) : Except LoadError Session :=
  (RuleSet.load source).map fun set => { session with rules := session.rules.append set }

def loadDictionary (session : Session) (data : String) : Except DictionaryError Session :=
  (Dictionary.ofText data).map fun d => { session with dictionary := some d }

def analyze (session : Session) (text : String) : Session :=
  { session with sentences := Analysis.analyze session.dictionary text }

def sentence? (session : Session) (i : Nat) : Option Sentence := session.sentences[i]?

def token? (session : Session) (i j : Nat) : Option Token := (session.sentence? i).bind (·.token? j)

def modifyToken (session : Session) (i j : Nat) (f : Token → Token) : Session :=
  { session with sentences := session.sentences.modify i (·.modifyToken j f) }

def checker (session : Session) : Checker := .new session.rules session.options

def disambiguate (session : Session) : Session :=
  { session with sentences := session.sentences.map session.checker.disambiguate }

/-- Runs one disambiguation rule on one sentence, if both are there. What was done before a failure is kept. -/
def runRule? (session : Session) (rule i : Nat) : Option (Session × Except MatchError Nat) := do
  let r ← session.rules.disambiguation[rule]?
  let s ← session.sentence? i
  let (after, outcome) := r.run s session.options.limit
  pure ({ session with sentences := session.sentences.set i after }, outcome)

/-- For each rule, and after these for each disambiguation rule, the sentences that it can be left out for. -/
def ignored (session : Session) : List (List Bool) :=
  (session.rules.grammar ++ session.rules.disambiguation.map (·.rule)).map fun r =>
    session.sentences.map fun s => r.canBeIgnored s.index

/-- The findings in each sentence as it is now. -/
def check (session : Session) : List (List Report) := session.sentences.map session.checker.checkSentence

end Session

end GrammarCheck
