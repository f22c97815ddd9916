import GrammarCheck.Check.Report
import GrammarCheck.RuleSet

/-! The rule that a sentence starts with an uppercase letter. It does not hold after a sentence that ends with a colon,
a semicolon or a comma, since what follows then is an item of a list. -/

namespace GrammarCheck.SentenceStart

def ruleId : String := "UPPERCASE_SENTENCE_START"

def source : String := "
rule UPPERCASE_SENTENCE_START \"Checks that a sentence starts with an uppercase letter\" \x7b
    pattern case \x7b [pos=\"SENT_START\"] marker \x7b [text~\"\\p\x7bLl\x7d.*\"] \x7d \x7d
    message \"This sentence does not start with an uppercase letter.\";
    suggestion \"<match no='2' case='start_upper'/>\";
\x7d
"

def rule : Except LoadError (Option Rule) := do
  let set ← RuleSet.load source
  pure set.grammar.getLast?

def continuesList (previous : Sentence) : Bool :=
  previous.lastWord?.any fun t => t.text == ":" || t.text == ";" || t.text == ","

/-- The findings in a sentence, given the one before it. -/
def checkSentence (r : Rule) (limit : Option Nat) (s : Sentence) (previous : Option Sentence) :
    Except MatchError (List Report) :=
  if previous.any continuesList then .ok []
  else (r.findMatches s limit).map fun ms => ms.map (Report.ofMatch r s)

/-- The findings in sentences that follow another; a sentence in which the search fails has none. -/
def checkAfter (r : Rule) (limit : Option Nat) (previous : Option Sentence) : List Sentence → List Report
  | [] => []
  | s :: rest => ((checkSentence r limit s previous).toOption.getD []) ++ checkAfter r limit (some s) rest

def checkText (r : Rule) (limit : Option Nat) (sentences : List Sentence) : List Report :=
  checkAfter r limit none sentences

end GrammarCheck.SentenceStart
