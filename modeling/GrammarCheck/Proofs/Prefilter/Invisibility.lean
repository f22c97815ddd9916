import GrammarCheck.Proofs.Prefilter.Held
import GrammarCheck.Proofs.Prefilter.Rejection

/-! Runs without the test that leaves rules out. They leave the same tokens and give the same reports, because a rule
that the test leaves out changes nothing and finds nothing, also where it would run into its limit. -/

namespace GrammarCheck

/-- Runs rules in order and leaves none out. -/
def disambiguateFully (rules : List DisambiguationRule) (limit : Option Nat) (s : Sentence) : Sentence :=
  rules.foldl (fun s r => (r.run s limit).1) s

namespace Checker

/-- The matches of a rule that are reported if no rule is left out. -/
def reportsOfFully (options : CheckOptions) (s : Sentence) (r : Rule) : List Report :=
  let ms := (r.findMatches s options.limit).toOption.getD []
  (ms.filter fun m => !(options.skipImmunized && isImmunized s m)).map (Report.ofMatch r s)

def checkSentenceFully (c : Checker) (s : Sentence) : List Report :=
  (c.rules.grammar.flatMap (reportsOfFully c.options s)).foldl addNew []

end Checker

namespace Sentence

variable {s s' : Sentence}

theorem tokens_modifyToken_congr (h : s.tokens = s'.tokens) (i : Nat) (f : Token → Token) :
    (s.modifyToken i f).tokens = (s'.modifyToken i f).tokens := by
  rw [modifyToken, modifyToken, h]

theorem tokens_editAll_congr (h : s.tokens = s'.tokens) (edits : List TokenEdit) :
    (s.editAll edits).tokens = (s'.editAll edits).tokens := by
  induction edits generalizing s s' with
  | nil => exact h
  | cons e rest ih => exact ih (tokens_modifyToken_congr h e.1 e.2)

end Sentence

section

variable {s s' : Sentence}

theorem Action.tokens_leaves_applyAll_congr (h : s.tokens = s'.tokens) (a : Action) (ms : List Match) :
    ((a.applyAll ms).leaves s).tokens = ((a.applyAll ms).leaves s').tokens := by
  obtain ⟨before, -, -, hleaves⟩ := a.exists_leaves_applyAll ms
  rw [hleaves, hleaves]
  exact Sentence.tokens_editAll_congr h _

namespace DisambiguationRule

theorem fst_run (r : DisambiguationRule) (s : Sentence) (limit : Option Nat) :
    (r.run s limit).1 = (r.action.applyAll ((r.rule.findMatches s limit).toOption.getD [])).leaves s := by
  cases hms : r.rule.findMatches s limit with
  | error e =>
    rw [run_of_error hms]
    rfl
  | ok ms => exact fst_run_of_findMatches hms

theorem tokens_run_congr (h : s.tokens = s'.tokens) (r : DisambiguationRule) (limit : Option Nat) :
    (r.run s limit).1.tokens = (r.run s' limit).1.tokens := by
  rw [fst_run, fst_run, Rule.findMatches_congr h]
  exact r.action.tokens_leaves_applyAll_congr h _

end DisambiguationRule

end

/-- A rule that can be left out has no matches to act on or to report. -/
theorem Rule.matches_eq_nil {r : Rule} {s : Sentence} (h : r.canBeIgnored (.ofTokens s.tokens) = true)
    (limit : Option Nat) : (r.findMatches s limit).toOption.getD [] = [] := by
  rcases findMatches_cases h limit with hok | ⟨n, -, herror⟩
  · rw [hok]
    rfl
  · rw [herror]
    rfl

/-- One step of a run: a rule that is left out would not have changed the tokens. The sentences may differ in the index
they hold. -/
theorem DisambiguationRule.tokens_runIfNeeded {s s' : Sentence} (hs : s.Coherent) (h : s.tokens = s'.tokens)
    (r : DisambiguationRule) (limit : Option Nat) :
    (runIfNeeded limit s r).tokens = (r.run s' limit).1.tokens := by
  unfold runIfNeeded
  dsimp only
  split
  case isTrue hignored =>
    rw [hs.withIndex] at hignored
    have hignored' : r.rule.canBeIgnored (.ofTokens s'.tokens) = true := h ▸ hignored
    rw [fst_run, Rule.matches_eq_nil hignored']
    exact h
  case isFalse =>
    have hread : s.withIndex.tokens = s'.tokens := h
    exact tokens_run_congr hread r limit

theorem DisambiguationRule.coherent_runIfNeeded {s : Sentence} (hs : s.Coherent) (r : DisambiguationRule)
    (limit : Option Nat) : (runIfNeeded limit s r).Coherent :=
  r.runIfNeeded_keeps (fun s i f _ _ => s.coherent_modifyToken i f) (fun _ => Sentence.Coherent.withIndex) hs limit

theorem tokens_disambiguate {s s' : Sentence} (hs : s.Coherent) (h : s.tokens = s'.tokens)
    (rules : List DisambiguationRule) (limit : Option Nat) :
    (disambiguate rules limit s).tokens = (disambiguateFully rules limit s').tokens := by
  induction rules generalizing s s' with
  | nil => exact h
  | cons r rest ih => exact ih (r.coherent_runIfNeeded hs limit) (r.tokens_runIfNeeded hs h limit)

namespace Checker

theorem reportsOf_withIndex {s : Sentence} (hs : s.Coherent) (options : CheckOptions) (r : Rule) :
    reportsOf options s.withIndex r = reportsOfFully options s r := by
  unfold reportsOf reportsOfFully
  have hread : s.withIndex.tokens = s.tokens := rfl
  have hmatches : r.findMatches s.withIndex options.limit = r.findMatches s options.limit :=
    r.findMatches_congr hread options.limit
  split
  case isTrue hignored =>
    rw [hs.withIndex] at hignored
    have hnone := Rule.matches_eq_nil hignored options.limit
    rw [hmatches] at hnone
    rw [hnone]
    rfl
  case isFalse =>
    rw [hmatches]
    rfl

theorem checkSentence_eq {s : Sentence} (hs : s.Coherent) (c : Checker) :
    c.checkSentence s = c.checkSentenceFully s := by
  have hreports : reportsOf c.options s.withIndex = reportsOfFully c.options s :=
    funext fun r => reportsOf_withIndex hs c.options r
  unfold checkSentence checkSentenceFully
  dsimp only
  rw [hreports]

end Checker

/-- The index is always the one of the tokens, and the test on it does not show in what runs do and find. -/
theorem prefilter_is_invisible {s : Sentence} (hs : s.Reached) :
    s.index = .ofTokens s.tokens ∧
      (∀ rules limit, (disambiguate rules limit s).tokens = (disambiguateFully rules limit s).tokens) ∧
      ∀ c : Checker, c.checkSentence s = c.checkSentenceFully s :=
  ⟨hs.coherent, fun rules limit => tokens_disambiguate hs.coherent rfl rules limit,
    fun c => c.checkSentence_eq hs.coherent⟩

/-- A sentence whose index was read before its base form was changed. -/
def editedSentence : Sentence :=
  (Sentence.ofTokens [.new "Dogs" [.of "dog" "NNS"]]).withIndex.modifyToken 0 (·.setReadings [.of "dogs" "NNP"])

theorem prefilter_is_invisible_after_edit :
    editedSentence.Reached ∧ editedSentence.index.hasBase "dogs" = true ∧
      editedSentence.index = .ofTokens editedSentence.tokens ∧
      (∀ rules limit, (disambiguate rules limit editedSentence).tokens =
        (disambiguateFully rules limit editedSentence).tokens) ∧
      ∀ c : Checker, c.checkSentence editedSentence = c.checkSentenceFully editedSentence :=
  ⟨.edit (.read (.new _)) 0 _, by decide +kernel, prefilter_is_invisible (.edit (.read (.new _)) 0 _)⟩

end GrammarCheck
