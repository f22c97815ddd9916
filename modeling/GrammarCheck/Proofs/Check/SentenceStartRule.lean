import GrammarCheck.Check.SentenceStart
import GrammarCheck.Proofs.Regex.LowercaseStart
import GrammarCheck.Proofs.Search.SingleTokens
import Mathlib

/-! The rule on uppercase sentence starts as it is compiled: a token that opens a sentence, and behind it a word that starts
with a lowercase letter. -/

namespace GrammarCheck.SentenceStart

open Success

/-- The token that opens a sentence. -/
def openingToken : TokenDef where
  condition := { tag := some (.literal Token.sentenceStartTag) }
  location := ⟨3, 20⟩

def lowercaseToken : TokenDef where
  condition := { text := some (.regex Regex.lowercaseStart) }
  location := ⟨3, 48⟩

def definition : RuleDef where
  id := ruleId
  subId := "1"
  description := "Checks that a sentence starts with an uppercase letter"
  pattern := ⟨true, [.tokens ⟨openingToken, []⟩, .marker [.tokens ⟨lowercaseToken, []⟩] ⟨3, 39⟩]⟩
  message := "This sentence does not start with an uppercase letter."
  shortMessage := none
  suggestions := ["<match no='2' case='start_upper'/>"]
  allowOverlap := false
  examples := []
  location := ⟨2, 1⟩

set_option maxRecDepth 20000 in
theorem read_source : RuleFile.read source = .ok { rules := [definition] } := by cbv

def openingElement : Element := .single { tag := some (.literal Token.sentenceStartTag), caseSensitive := true } 0

variable {m : Matcher}

def wordElement (m : Matcher) : Element := .single { text := some m, caseSensitive := true } 1

def message : Template := ⟨[.piece (.text definition.message)]⟩

def suggestion : Template := ⟨[.piece (.reference { position := 2, conversion := .startUpper })]⟩

theorem parse_message : Template.parse definition.message = .ok message := by cbv

set_option maxRecDepth 20000 in
theorem parse_suggestion : Template.parse "<match no='2' case='start_upper'/>" = .ok suggestion := by cbv

/-- The rule for what the pattern of the word is compiled to. -/
def compiled (m : Matcher) : Rule where
  id := ruleId
  subId := "1"
  description := definition.description
  elements := [openingElement, wordElement m]
  elementCounts := [1, 1]
  marker := ⟨1, 2⟩
  message := message
  shortMessage := none
  suggestions := [suggestion]
  disjunctive := false
  allowOverlap := false
  features := ⟨[]⟩
  examples := []
  location := ⟨2, 1⟩

theorem compile_text {value : Value} (hm : Matcher.ofValue value true = .ok m) :
    Condition.compile { text := some value } true = .ok { text := some m, caseSensitive := true } := by
  have htext : (some value).mapM (fun v => Matcher.ofValue v true) = .ok (some m) := by
    show some <$> Matcher.ofValue value true = _
    rw [hm]
    rfl
  exact bind_eq_ok.mpr ⟨some m, htext, rfl⟩

theorem backwardCondition_lowercaseToken (hm : Matcher.ofRegex Regex.lowercaseStart true = .ok m) :
    Compile.backwardCondition lowercaseToken.condition true 1 = .ok (wordElement m).condition := by
  have hcompile : Condition.compile lowercaseToken.condition true = .ok (wordElement m).condition := compile_text hm
  exact bind_eq_ok.mpr ⟨(wordElement m).condition, mapError_eq_ok.mpr hcompile, rfl⟩

theorem element_lowercaseToken (hm : Matcher.ofRegex Regex.lowercaseStart true = .ok m) :
    Compile.element ⟨lowercaseToken, []⟩ 1 true = .ok (wordElement m) :=
  bind_eq_ok.mpr ⟨(), rfl, bind_eq_ok.mpr ⟨(wordElement m).condition, backwardCondition_lowercaseToken hm, rfl⟩⟩

/-- The tokens of the pattern in order. -/
def planned : List PlannedToken := [⟨⟨openingToken, []⟩, 0, false, none⟩, ⟨⟨lowercaseToken, []⟩, 1, true, none⟩]

theorem pattern_planned (hm : Matcher.ofRegex Regex.lowercaseStart true = .ok m) :
    Compile.pattern ruleId { markerSeen := true, positions := 2 } true planned =
      .ok ⟨[openingElement, wordElement m], [1, 1], ⟨1, 2⟩⟩ := by
  have hopening : Compile.plannedElement ruleId [] true ⟨⟨openingToken, []⟩, 0, false, none⟩ = .ok openingElement := rfl
  have hword : Compile.plannedElement ruleId [] true ⟨⟨lowercaseToken, []⟩, 1, true, none⟩ = .ok (wordElement m) :=
    bind_eq_ok.mpr ⟨wordElement m, mapError_eq_ok.mpr (element_lowercaseToken hm), rfl⟩
  have helements : planned.mapM (Compile.plannedElement ruleId [] true) = .ok [openingElement, wordElement m] := by
    rw [planned, List.mapM_cons]
    exact bind_eq_ok.mpr ⟨openingElement, hopening, bind_eq_ok.mpr ⟨[wordElement m], mapM_singleton_eq_ok hword, rfl⟩⟩
  have hcounts : ((List.range 2).map fun p => planned.countP (·.position == p)) = [1, 1] := by decide
  refine bind_eq_ok.mpr ⟨[openingElement, wordElement m], helements, ?_⟩
  rw [hcounts]
  rfl

theorem patterns_definition (hm : Matcher.ofRegex Regex.lowercaseStart true = .ok m) :
    Compile.patterns ⟨[], ⟨[]⟩⟩ ruleId definition.pattern = .ok [⟨[openingElement, wordElement m], [1, 1], ⟨1, 2⟩⟩] := by
  have hexpand : RuleContext.expand ⟨[], ⟨[]⟩⟩ definition.pattern.items =
      .ok ([planned], { groups := [], markerSeen := true, positions := 2 }) := rfl
  refine bind_eq_ok.mpr ⟨_, mapError_eq_ok.mpr hexpand, ?_⟩
  dsimp only
  rw [if_neg (Nat.succ_ne_zero 1)]
  exact mapM_singleton_eq_ok (pattern_planned hm)

theorem template_of_parse {source : String} {t : Template} {positions : Nat} (ht : Template.parse source = .ok t)
    (hpositions : t.references.find? (fun r => r.position = 0 ∨ positions < r.position) = none) :
    Compile.template source positions = .ok t := by
  refine bind_eq_ok.mpr ⟨t, mapError_eq_ok.mpr ht, ?_⟩
  rw [hpositions]
  rfl

theorem texts_definition : Compile.texts definition 2 = .ok ⟨message, none, [suggestion]⟩ := by
  have hmessage : Compile.template definition.message 2 = .ok message := template_of_parse parse_message rfl
  have hsuggestion : Compile.template "<match no='2' case='start_upper'/>" 2 = .ok suggestion :=
    template_of_parse parse_suggestion rfl
  refine bind_eq_ok.mpr ⟨message, hmessage, bind_eq_ok.mpr ⟨none, rfl, ?_⟩⟩
  exact bind_eq_ok.mpr ⟨[suggestion], mapM_singleton_eq_ok hsuggestion, rfl⟩

theorem rules_definition (hm : Matcher.ofRegex Regex.lowercaseStart true = .ok m) :
    Compile.rules ⟨[], ⟨[]⟩⟩ definition = .ok [compiled m] := by
  refine bind_eq_ok.mpr ⟨_, patterns_definition hm, ?_⟩
  exact bind_eq_ok.mpr ⟨_, mapError_eq_ok.mpr texts_definition, rfl⟩

/-- The source of the rule is a file of one rule, which compiles. -/
theorem rule_eq (hm : Matcher.ofRegex Regex.lowercaseStart true = .ok m) : rule = .ok (some (compiled m)) := by
  have hfile : RuleSet.ofFile { rules := [definition] } = .ok ⟨[compiled m], []⟩ := by
    refine bind_eq_ok.mpr ⟨⟨[], ⟨[]⟩⟩, rfl, bind_eq_ok.mpr ⟨[[compiled m]], ?_, rfl⟩⟩
    exact mapM_singleton_eq_ok (rules_definition hm)
  have hload : RuleSet.load source = .ok ⟨[compiled m], []⟩ :=
    bind_eq_ok.mpr ⟨_, mapError_eq_ok.mpr read_source, mapError_eq_ok.mpr hfile⟩
  exact bind_eq_ok.mpr ⟨_, hload, rfl⟩

end GrammarCheck.SentenceStart
