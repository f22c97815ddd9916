import GrammarCheck.Proofs.Rule.Grouping
import GrammarCheck.Proofs.Search.Preference

/-! The match that the search finds is the preferred one of all that there are, and it finds one if there is any. -/

namespace GrammarCheck

namespace Rule

/-- The completions of the point where the search starts are the valid assignments. -/
theorem validAssignment_iff {r : Rule} (hgroups : Search.Grouped r.elements) (s : Sentence) (i : Nat)
    (taken : List Taken) : ValidAssignment r s i taken ↔ ∃ p ∈ r.completionsAt s i, p.taken = taken := by
  have hjudged (helements : taken.map (·.1) = r.elements) :
      Search.Judged r.features s .start taken ↔ ∀ e ∈ r.elements, ∀ slot, e.agreement = some slot →
        slot.Accepts r.features (groupTokens s slot.group taken) := by
    have hwatch := Search.judged_iff r.features s (helements.symm ▸ hgroups) []
    rw [Search.openAgreement_nil, helements] at hwatch
    simpa only [Search.tokensBefore_nil, List.nil_append] using hwatch
  constructor
  · intro h
    obtain ⟨p, hp, htaken⟩ := Search.exists_mem_completions r.features s h.elements (p := .start i) h.spans
      ((hjudged h.elements).mpr h.groups) h.nonempty
    exact ⟨p, hp, htaken⟩
  · rintro ⟨p, hp, rfl⟩
    obtain ⟨taken, htaken, helements, hspans, hwatched, hne⟩ := Search.assignment_of_mem_completions r.features s hp
    -- The search starts without spans.
    have hown : p.taken = taken := htaken
    rw [hown] at hjudged ⊢
    rw [Search.isNonempty_iff, hown] at hne
    exact ⟨helements, hspans, hne, (hjudged helements).mp hwatched⟩

/-- A search that comes to its end finds the preferred one of the valid assignments, or there is none. It comes to its
end unless it runs into its limit. -/
theorem matchAt_is_preferred {r : Rule} (h : r.IsCompiled) (s : Sentence) (i : Nat) (limit : Option Nat)
    (steps : Nat) :
    match r.matchAt s limit i steps with
    | .ok (some p, _) => ValidAssignment r s i p.taken ∧
        ∀ taken, ValidAssignment r s i taken →
          taken = p.taken ∨ PreferredAssignment p.taken taken ∧ ¬PreferredAssignment taken p.taken
    | .ok (none, _) => ∀ taken, ¬ValidAssignment r s i taken
    | .error e => ∃ n, limit = some n ∧ e = .stepLimit n := by
  have hvalid := validAssignment_iff h.grouped s i
  have hpairwise := Search.pairwise_completions r.features s r.elements (.start i)
  obtain ⟨cost, hcost⟩ := r.matchAt_metered s i
  rw [hcost]
  rcases Search.metered_cases limit (r.completionsAt s i).head? (1 + cost) steps with hok | ⟨n, hlimit, herror⟩
  · rw [hok]
    cases hcompletions : r.completionsAt s i with
    | nil =>
      intro taken htaken
      obtain ⟨p, hp, -⟩ := (hvalid taken).mp htaken
      rw [hcompletions] at hp
      exact absurd hp List.not_mem_nil
    | cons p others =>
      have hlist : Search.completions r.features s r.elements (.start i) = p :: others := hcompletions
      rw [hlist, List.pairwise_cons] at hpairwise
      refine ⟨(hvalid p.taken).mpr ⟨p, by rw [hcompletions]; exact List.mem_cons_self, rfl⟩, fun taken htaken => ?_⟩
      obtain ⟨q, hq, rfl⟩ := (hvalid taken).mp htaken
      rw [hcompletions] at hq
      rcases List.mem_cons.mp hq with rfl | hq
      · exact Or.inl rfl
      · have hpreferred := hpairwise.1 q hq
        exact Or.inr ⟨hpreferred, hpreferred.asymm⟩
  · rw [herror]
    exact ⟨n, hlimit, rfl⟩

/-- Both elements can take the second token; the first one does, because longer runs are preferred. -/
def repeatedTag : String :=
  "rule r \x7b pattern \x7b [pos=\"A\", max=2] [pos=\"A\", min=0] \x7d message \"m\"; \x7d"

theorem matchAt_repeatedTag : ∃ r p steps, r.IsCompiled ∧
    r.matchAt (.ofTagged [("a", "a", "A"), ("b", "b", "A")]) none 1 0 = .ok (some p, steps) ∧
      p.spans = [⟨1, 3⟩, ⟨3, 3⟩] ∧
      ValidAssignment r (.ofTagged [("a", "a", "A"), ("b", "b", "A")]) 1 p.taken ∧
      ∀ taken, ValidAssignment r (.ofTagged [("a", "a", "A"), ("b", "b", "A")]) 1 taken →
        taken = p.taken ∨ PreferredAssignment p.taken taken ∧ ¬PreferredAssignment taken p.taken := by
  have hrun : ((RuleSet.load repeatedTag).toOption.bind fun set => set.grammar.head?.bind fun r =>
      (r.matchAt (.ofTagged [("a", "a", "A"), ("b", "b", "A")]) none 1 0).toOption.bind fun outcome =>
        outcome.1.map (·.spans)) = some [⟨1, 3⟩, ⟨3, 3⟩] := by decide +kernel
  obtain ⟨set, hload, hrun⟩ := Option.bind_eq_some_iff.mp hrun
  obtain ⟨r, hhead, hrun⟩ := Option.bind_eq_some_iff.mp hrun
  obtain ⟨⟨answer, steps⟩, hmatch, hrun⟩ := Option.bind_eq_some_iff.mp hrun
  obtain ⟨p, rfl, hspans⟩ := Option.map_eq_some_iff.mp hrun
  rw [Success.toOption_eq_some] at hload hmatch
  have hr : r.IsCompiled := (RuleSet.isCompiled_of_load hload).1 r (List.mem_of_head? hhead)
  have hpreferred := matchAt_is_preferred hr (.ofTagged [("a", "a", "A"), ("b", "b", "A")]) 1 none 0
  rw [hmatch] at hpreferred
  exact ⟨r, p, steps, hr, hmatch, hspans, hpreferred⟩

end Rule

end GrammarCheck
