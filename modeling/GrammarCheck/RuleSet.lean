import GrammarCheck.Disambiguation.Basic
import GrammarCheck.Source.RuleFile

/-! Rule sets. A file is loaded as a whole or not at all. -/

namespace GrammarCheck

structure RuleSet where
  grammar : List Rule
  disambiguation : List DisambiguationRule
  deriving Inhabited

inductive LoadError where
  | source (e : Source.SourceError)
  | compile (e : CompileError)
  deriving DecidableEq, Inhabited

namespace RuleSet

def empty : RuleSet := ⟨[], []⟩

def size (s : RuleSet) : Nat := s.grammar.length + s.disambiguation.length

def isEmpty (s : RuleSet) : Bool := s.grammar.isEmpty && s.disambiguation.isEmpty

def append (a b : RuleSet) : RuleSet := ⟨a.grammar ++ b.grammar, a.disambiguation ++ b.disambiguation⟩

def ofFile (file : RuleFile) : Except CompileError RuleSet := do
  let context ← RuleContext.ofFile file
  let grammar ← file.rules.mapM (Compile.rules context)
  let disambiguation ← file.disambiguations.mapM (Compile.disambiguationRules context)
  pure ⟨grammar.flatten, disambiguation.flatten⟩

def load (source : String) : Except LoadError RuleSet := do
  let file ← (RuleFile.read source).mapError .source
  (ofFile file).mapError .compile

end RuleSet

end GrammarCheck
