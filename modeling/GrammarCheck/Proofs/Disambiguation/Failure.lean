import GrammarCheck.Proofs.Disambiguation.Kept
import GrammarCheck.Proofs.Search.Scan
import GrammarCheck.RuleSet

/-! What is left after a failure. An action that fails has changed nothing. A rule whose search fails has not begun to act,
and one that meets a match which does not fit keeps the edits for the matches before it. -/

namespace GrammarCheck

open Success

namespace Action

variable {a : Action} {m : Match} {s s' : Sentence} {e : MatchError}

theorem of_run_apply_eq_error (h : (a.apply m).run s = .error e s') :
    s' = s ∧ ∃ expected found, e = .spanMismatch a.kind expected found := by
  have hfits : ¬a.Fits m := by
    intro hfits
    rw [run_apply_of_fits hfits] at h
    cases h
  obtain ⟨expected, found, herror⟩ := run_apply_of_not_fits hfits s
  rw [herror] at h
  cases h
  exact ⟨rfl, expected, found, rfl⟩

/-- The run fails as the first match does that does not fit, in the sentence that the ones before it have left. -/
theorem exists_first_of_run_applyAll_eq_error {ms : List Match} (h : (a.applyAll ms).run s = .error e s') :
    ∃ before m after, ms = before ++ m :: after ∧ (a.applyAll before).run s = .ok () s' ∧
      (a.apply m).run s' = .error e s' := by
  rcases a.fits_or_exists_first ms with hall | ⟨before, m, after, rfl, hbefore, hnot⟩
  · rw [run_applyAll_of_fits hall] at h
    cases h
  · obtain ⟨_, _, herror, hrun⟩ := run_applyAll_of_not_fits hbefore hnot after s
    rw [hrun] at h
    cases h
    exact ⟨before, m, after, rfl, run_applyAll_of_fits hbefore s, herror⟩

end Action

namespace DisambiguationRule

variable {r : DisambiguationRule} {s s' : Sentence} {limit : Option Nat} {e : MatchError}

/-- A run fails in its search, or in one of its actions. -/
theorem run_eq_error (h : r.run s limit = (s', .error e)) :
    (s' = s ∧ ∃ n, e = .stepLimit n) ∨
      ∃ ms, r.rule.findMatches s limit = .ok ms ∧ (r.action.applyAll ms).run s = .error e s' := by
  rcases r.rule.findMatches_eq_or s limit with hok | ⟨n, -, herror⟩
  · refine Or.inr ⟨_, hok, ?_⟩
    rw [run, hok] at h
    dsimp only at h
    generalize (r.action.applyAll _).run s = outcome at h ⊢
    cases outcome with
    | ok _ _ => cases h
    | error _ _ =>
      cases h
      rfl
  · rw [run_of_error herror] at h
    cases h
    exact Or.inl ⟨rfl, n, rfl⟩

/-- No edit is made in part. An action that fails leaves the sentence as it was, and so does a rule that takes too many
steps. A rule that meets a match with the wrong number of tokens leaves the sentence with the matches before it acted on,
and that match is the first one on which the action fails. -/
theorem failure_leaves_no_partial_edit (r : DisambiguationRule) (s : Sentence) :
    (∀ m e s', (r.action.apply m).run s = .error e s' → s' = s) ∧
      (∀ limit s' n, r.run s limit = (s', .error (.stepLimit n)) → s' = s) ∧
      ∀ limit s' kind expected found, r.run s limit = (s', .error (.spanMismatch kind expected found)) →
        ∃ before m after, r.rule.findMatches s limit = .ok (before ++ m :: after) ∧
          (r.action.applyAll before).run s = .ok () s' ∧
          (r.action.apply m).run s' = .error (.spanMismatch kind expected found) s' := by
  refine ⟨fun m e s' h => (Action.of_run_apply_eq_error h).1, fun limit s' n h => ?_, ?_⟩
  · rcases run_eq_error h with ⟨hsame, -⟩ | ⟨ms, -, hms⟩
    · exact hsame
    · -- No action fails for want of steps.
      obtain ⟨_, _, _, -, -, hfirst⟩ := Action.exists_first_of_run_applyAll_eq_error hms
      obtain ⟨-, expected, found, hkind⟩ := Action.of_run_apply_eq_error hfirst
      cases hkind
  · intro limit s' kind expected found h
    rcases run_eq_error h with ⟨-, n, hn⟩ | ⟨ms, hfound, hms⟩
    · cases hn
    · obtain ⟨before, m, after, rfl, hbefore, hfirst⟩ := Action.exists_first_of_run_applyAll_eq_error hms
      exact ⟨before, m, after, hfound, hbefore, hfirst⟩

/-- Adds a reading to a marker that takes one token or two. -/
def oneOrTwo : String :=
  "disambig D \x7b pattern \x7b [\"a\", max=2] \x7d action add; wd lemma=\"a\" pos=\"X\"; \x7d"

/-- The first match is one token and fits, and the second one is two and does not. -/
theorem failure_leaves_no_partial_edit_oneOrTwo :
    ∃ (set : RuleSet) (r : DisambiguationRule) (s s' : Sentence), RuleSet.load oneOrTwo = .ok set ∧
      set.disambiguation = [r] ∧ r.run s (some 0) = (s, .error (.stepLimit 0)) ∧
      r.run s none = (s', .error (.spanMismatch .add 1 2)) ∧ s'.tokens.map (·.readings.length) = [2, 1, 1, 1] ∧
      ∃ before m after, r.rule.findMatches s none = .ok (before ++ m :: after) ∧
        (r.action.applyAll before).run s = .ok () s' ∧
        (r.action.apply m).run s' = .error (.spanMismatch .add 1 2) s' := by
  let s : Sentence := .ofTokens [.new "a" [], .new "b" [], .new "a" [], .new "a" []]
  have hrun : ((RuleSet.load oneOrTwo).toOption.bind fun set => set.disambiguation.head?.map fun r =>
      (set.disambiguation.length, decide ((r.run s (some 0)).1 = s), (r.run s (some 0)).2,
        (r.run s none).1.tokens.map (·.readings.length), (r.run s none).2)) =
      some (1, true, .error (.stepLimit 0), [2, 1, 1, 1], .error (.spanMismatch .add 1 2)) := by decide +kernel
  obtain ⟨set, hload, hrun⟩ := Option.bind_eq_some_iff.mp hrun
  obtain ⟨r, hhead, hvalues⟩ := Option.map_eq_some_iff.mp hrun
  simp only [Prod.mk.injEq] at hvalues
  obtain ⟨hlength, hsame, hlimit, hreadings, hmismatch⟩ := hvalues
  obtain ⟨r', hone⟩ := List.length_eq_one_iff.mp hlength
  obtain rfl : r' = r := by simpa [hone] using hhead
  have hfailed : r'.run s none = ((r'.run s none).1, .error (.spanMismatch .add 1 2)) := Prod.ext rfl hmismatch
  refine ⟨set, r', s, (r'.run s none).1, toOption_eq_some.mp hload, hone,
    Prod.ext (of_decide_eq_true hsame) hlimit, hfailed, hreadings, ?_⟩
  exact (failure_leaves_no_partial_edit r' s).2.2 none _ _ _ _ hfailed

end DisambiguationRule

end GrammarCheck
