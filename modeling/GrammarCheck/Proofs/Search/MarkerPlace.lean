import GrammarCheck.Proofs.Rule.WellFormed
import GrammarCheck.Proofs.Search.Matches

/-! Where the marker of a match lies. It lies inside the match if one of its elements, or of those before it, took a token.
If none did, it is empty and lies where the search started, which is in front of the match if a gap comes first. -/

namespace GrammarCheck

namespace Assigned

variable {s : Sentence} {cursor : Nat} {gap : Bound} {guard : Option Element} {before front marked back : List Taken}

/-- An element that took no token was left out, and its span lies at the cursor. -/
theorem eq_empty_of_isEmpty {t : Taken} (h : Assigned s cursor gap guard before (t :: back))
    (hempty : t.2.isEmpty = true) : t.2 = .empty cursor := by
  cases h with
  | @consumed _ _ _ _ _ span _ hspan _ =>
    have hlow := hspan.low
    have hstop : span.stop ≤ span.start := Span.isEmpty_iff.mp hempty
    unfold Span.size at hlow
    omega
  | absent => rfl

/-- The marker against the tokens of the whole pattern. -/
theorem place_of_markerRange (h : Assigned s cursor gap guard before (front ++ (marked ++ back)))
    (hcursor : cursor ≤ s.size) {pattern range : Span}
    (hpattern : covering ((front ++ (marked ++ back)).map (·.2)) = some pattern)
    (hrange : Match.markerRange (marked.map (·.2)) pattern = range) :
    range.start ≤ range.stop ∧ range.stop ≤ pattern.stop ∧
      (pattern.start ≤ range.start ∨ range = .empty cursor ∧ cursor < pattern.start ∧ marked ≠ [] ∧
        ∀ t ∈ front ++ marked, t.2.isEmpty = true) := by
  have hinside {t : Taken} (ht : t ∈ front ++ (marked ++ back)) (hne : t.2.isEmpty = false) :
      pattern.start ≤ t.2.start ∧ t.2.stop ≤ pattern.stop :=
    le_of_covering_eq_some hpattern (List.mem_map_of_mem ht) hne
  have hlt : pattern.start < pattern.stop := Span.isEmpty_eq_false_iff.mp (isEmpty_of_covering_eq_some hpattern)
  have hle : cursor ≤ pattern.start :=
    (covering_eq_some (List.forall_mem_map.mpr (h.liesBetween hcursor)) hpattern).low_le
  subst hrange
  unfold Match.markerRange
  cases hmarked : covering (marked.map (·.2)) with
  | some c =>
    -- The marked elements took tokens, and these are tokens of the match.
    have hown := Span.isEmpty_eq_false_iff.mp (isEmpty_of_covering_eq_some hmarked)
    obtain ⟨hstart, hstop⟩ := covering_le hmarked fun span hspan hne => by
      obtain ⟨t, ht, rfl⟩ := List.mem_map.mp hspan
      exact hinside (List.mem_append_right _ (List.mem_append_left _ ht)) hne
    exact ⟨Nat.le_of_lt hown, hstop, Or.inl hstart⟩
  | none =>
    have hempties := List.forall_mem_map.mp (covering_eq_none_iff.mp hmarked)
    obtain ⟨place, hplace, ⟨_, _, _, hrest⟩, hbetween, hreached⟩ := h.exists_rest hcursor
    cases marked with
    | nil => exact ⟨Nat.le_refl _, Nat.le_of_lt hlt, Or.inl (Nat.le_refl _)⟩
    | cons first others =>
      -- The marker stands where its first element was left out: behind the last token taken before it, if there is one.
      have hfirst := hrest.eq_empty_of_isEmpty (hempties first List.mem_cons_self)
      rw [Option.getD_none, List.map_cons, List.head?_cons, Option.map_some, Option.getD_some, hfirst]
      refine ⟨Nat.le_refl place, ?_⟩
      rcases hreached with rfl | ⟨t, ht, hne, rfl⟩
      · refine ⟨Nat.le_of_lt (Nat.lt_of_le_of_lt hle hlt), ?_⟩
        rcases Nat.eq_or_lt_of_le hle with hsame | hgap
        · exact Or.inl (Nat.le_of_eq hsame.symm)
        · refine Or.inr ⟨rfl, hgap, List.cons_ne_nil _ _, fun t ht => ?_⟩
          rcases List.mem_append.mp ht with ht | ht
          · exact Span.isEmpty_iff.mpr (Nat.le_trans (hbetween t ht).stop_le (hbetween t ht).low_le)
          · exact hempties t ht
      · obtain ⟨hstart, hstop⟩ := hinside (List.mem_append_left _ ht) hne
        have hown := Span.isEmpty_eq_false_iff.mp hne
        exact ⟨hstop, Or.inl (Nat.le_of_lt (Nat.lt_of_le_of_lt hstart hown))⟩

end Assigned

namespace Rule

variable {r : Rule} {s : Sentence}

/-- The marker of a match does not reach behind its end, and does not start before it unless nothing was taken up to the
end of the marker: then it is empty and lies where the search started, with a gap between it and the match. -/
theorem findMatches_place_marker {limit : Option Nat} {ms : List Match} (h : r.findMatches s limit = .ok ms) {m : Match}
    (hm : m ∈ ms) :
    ∃ i p steps, r.matchAt s none i 0 = .ok (some p, steps) ∧ m = Match.ofPoint r s p ∧
      m.range.start ≤ m.range.stop ∧ m.range.stop ≤ m.pattern.stop ∧
      (m.pattern.start ≤ m.range.start ∨
        m.range = .empty i ∧ i < m.pattern.start ∧ ∀ t ∈ p.taken.take r.marker.stop, t.2.isEmpty = true) := by
  obtain ⟨i, p, steps, hi, hp, hmatch, rfl, -, hassigned⟩ := exists_assigned_of_mem_findMatches h hm
  obtain ⟨front, back, hsplit, htake, hrange⟩ := Match.exists_marked r s p
  have hpattern := covering_spans_of_mem_completionsAt hp
  generalize r.markedIn p.taken = marked at hsplit htake hrange
  rw [Point.spans, hsplit] at hpattern
  rw [hsplit] at hassigned
  obtain ⟨hle, hstop, hstart⟩ := hassigned.place_of_markerRange (Nat.le_of_lt hi) hpattern hrange
  refine ⟨i, p, steps, hmatch, rfl, hle, hstop, ?_⟩
  rcases hstart with hinside | ⟨hempty, hgap, hne, hnone⟩
  · exact Or.inl hinside
  · exact Or.inr ⟨hempty, hgap, htake hne ▸ hnone⟩

/-- The marker has one element, which may be left out, behind one with a gap. -/
def gapBeforeMarker : String :=
  "rule R \x7b pattern \x7b [\"a\", skip=1] marker \x7b [\"o\", min=0] \x7d [\"b\"] \x7d message \"m\"; \x7d"

/-- The empty marker lies behind the token taken before it, and so inside the match. -/
theorem findMatches_gapBeforeMarker :
    ∃ (r : Rule) (s : Sentence) (ms : List Match) (m : Match), r.IsCompiled ∧ r.findMatches s none = .ok ms ∧ m ∈ ms ∧
      m.pattern = ⟨0, 3⟩ ∧ m.range = .empty 1 ∧ ∃ i p steps, r.matchAt s none i 0 = .ok (some p, steps) ∧
        m = Match.ofPoint r s p ∧ m.range.start ≤ m.range.stop ∧ m.range.stop ≤ m.pattern.stop ∧
        (m.pattern.start ≤ m.range.start ∨
          m.range = .empty i ∧ i < m.pattern.start ∧ ∀ t ∈ p.taken.take r.marker.stop, t.2.isEmpty = true) := by
  have hrun : ofFirstMatch? (fun _ m => (m.pattern, m.range)) gapBeforeMarker
      (.ofTokens [.new "a" [], .new "x" [], .new "b" []]) = some (⟨0, 3⟩, .empty 1) := by decide +kernel
  obtain ⟨file, context, d, r, ms, m, hread, hcontext, hcomes, hms, hm, hspans⟩ := exists_of_ofFirstMatch? hrun
  obtain ⟨hpattern, hrange⟩ := Prod.mk.inj hspans
  exact ⟨r, _, ms, m, hcomes.isCompiled, hms, hm, hpattern, hrange, findMatches_place_marker hms hm⟩

/-- The marker has one element, which may be left out, in front of a gap. -/
def markerBeforeGap : String :=
  "rule R \x7b pattern \x7b marker \x7b [\"o\", min=0, skip=1] \x7d [\"b\"] \x7d message \"m\"; \x7d"

/-- The empty marker lies at the token before the match. -/
theorem findMatches_markerBeforeGap :
    ∃ (r : Rule) (s : Sentence) (ms : List Match) (m : Match), r.IsCompiled ∧ r.findMatches s none = .ok ms ∧ m ∈ ms ∧
      m.pattern = ⟨2, 3⟩ ∧ m.range = .empty 1 ∧ ¬m.pattern.start ≤ m.range.start := by
  have hrun : ofFirstMatch? (fun _ m => (m.pattern, m.range)) markerBeforeGap
      (.ofTagged [("a", "a", "X"), ("b", "b", "X")]) = some (⟨2, 3⟩, .empty 1) := by decide +kernel
  obtain ⟨file, context, d, r, ms, m, hread, hcontext, hcomes, hms, hm, hspans⟩ := exists_of_ofFirstMatch? hrun
  obtain ⟨hpattern, hrange⟩ := Prod.mk.inj hspans
  refine ⟨r, _, ms, m, hcomes.isCompiled, hms, hm, hpattern, hrange, ?_⟩
  rw [hpattern, hrange]
  decide

end Rule

end GrammarCheck
