import GrammarCheck.Proofs.Disambiguation.Kept
import GrammarCheck.RuleSet

/-! What disambiguation may change. A token that differs afterwards was under the marker of a match that one of the rules
found, in the sentence that the rules before it had left. -/

namespace GrammarCheck

open Success

namespace Sentence

variable {may : Nat → (Token → Token) → Prop} {s s' : Sentence} {i : Nat}

/-- A token that differs was edited. -/
theorem Edited.exists_edit (h : Edited may s s') (hne : s'.token? i ≠ s.token? i) : ∃ f, may i f := by
  induction h with
  | unchanged => exact absurd rfl hne
  | read _ ih => exact ih hne
  | @edit s' j f _ hedit ih =>
    rcases eq_or_ne j i with rfl | hother
    · exact ⟨f, hedit⟩
    · rw [token?_modifyToken_of_ne hother] at hne
      exact ih hne

end Sentence

/-- Disambiguation keeps the tokens in their order, each with its text, its place and a reading; marks are not taken
back. A token that it changed lies under the marker of a match. -/
theorem disambiguate_changes_marked {s : Sentence} (hs : ∀ t ∈ s.tokens, t.readings ≠ [])
    (rules : List DisambiguationRule) (limit : Option Nat) :
    List.Forall₂ Token.RevisedTo s.tokens (disambiguate rules limit s).tokens ∧
      (∀ t ∈ (disambiguate rules limit s).tokens, t.readings ≠ []) ∧
      ∀ i, (disambiguate rules limit s).token? i ≠ s.token? i → ∃ before r after, rules = before ++ r :: after ∧
        ∃ ms, r.rule.findMatches (disambiguate before limit s) limit = .ok ms ∧ ∃ m ∈ ms, m.range.contains i = true := by
  have hrevised := revisedTo_disambiguate rules limit s
  refine ⟨hrevised, fun t ht => ?_, fun i hi => ?_⟩
  · obtain ⟨t', ht', hrevision⟩ := exists_of_mem_right hrevised ht
    exact hrevision.readings (hs t' ht')
  · obtain ⟨_, before, r, after, hrules, ms, hms, -, hmarked⟩ := (disambiguate_edits rules limit s).exists_edit hi
    exact ⟨before, r, after, hrules, ms, hms, hmarked⟩

/-- A rule that takes a reading away, and one that immunizes what it left. -/
def nounAfterArticle : String :=
  "disambig A \x7b pattern \x7b [pos=\"DT\"] marker \x7b [\"walk\"] \x7d \x7d action remove pos=\"VB\"; \x7d " ++
    "disambig B \x7b pattern \x7b [pos=\"NN\", except(pos=\"VB\")] \x7d action immunize; \x7d"

theorem disambiguate_nounAfterArticle :
    ∃ (set : RuleSet) (s : Sentence), RuleSet.load nounAfterArticle = .ok set ∧ set.disambiguation.length = 2 ∧
      (∀ t ∈ s.tokens, t.readings ≠ []) ∧
      (disambiguate set.disambiguation none s).tokens.map (fun t => (t.text, t.readings.length, t.immunized)) =
        [("", 1, false), ("a", 1, false), ("walk", 1, true)] ∧
      (disambiguate set.disambiguation none s).token? 2 ≠ s.token? 2 ∧
      List.Forall₂ Token.RevisedTo s.tokens (disambiguate set.disambiguation none s).tokens ∧
      (∀ t ∈ (disambiguate set.disambiguation none s).tokens, t.readings ≠ []) ∧
      ∃ before r after, set.disambiguation = before ++ r :: after ∧
        ∃ ms, r.rule.findMatches (disambiguate before none s) none = .ok ms ∧ ∃ m ∈ ms, m.range.contains 2 = true := by
  let s : Sentence :=
    .ofTokens [.sentenceStart, .new "a" [.of "a" "DT"], .new "walk" [.of "walk" "NN", .of "walk" "VB"]]
  have hreadings : ∀ t ∈ s.tokens, t.readings ≠ [] := by decide
  have hrun : ((RuleSet.load nounAfterArticle).toOption.map fun set =>
      (set.disambiguation.length,
        (disambiguate set.disambiguation none s).tokens.map fun t => (t.text, t.readings.length, t.immunized),
        decide ((disambiguate set.disambiguation none s).token? 2 = s.token? 2))) =
      some (2, [("", 1, false), ("a", 1, false), ("walk", 1, true)], false) := by decide +kernel
  obtain ⟨set, hload, hvalues⟩ := Option.map_eq_some_iff.mp hrun
  simp only [Prod.mk.injEq] at hvalues
  obtain ⟨hlength, htokens, hsame⟩ := hvalues
  obtain ⟨hrevised, hkept, hmarked⟩ := disambiguate_changes_marked hreadings set.disambiguation none
  have hchanged := of_decide_eq_false hsame
  exact ⟨set, s, toOption_eq_some.mp hload, hlength, hreadings, htokens, hchanged, hrevised, hkept,
    hmarked 2 hchanged⟩

end GrammarCheck
