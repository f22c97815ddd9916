import GrammarCheck.Proofs.Rule.WellFormed
import GrammarCheck.Proofs.Search.BoundSpans

/-! The shape of matches. The positions of a match lie in the sentence, one behind the other; its pattern is the smallest
span around them, and its marker the one around the tokens of the marked elements. -/

namespace GrammarCheck

/-- An element is left out, or takes as many tokens as its bounds let it. -/
theorem Assigned.size_of_mem {s : Sentence} {cursor : Nat} {gap : Bound} {guard : Option Element}
    {before taken : List Taken} (h : Assigned s cursor gap guard before taken) :
    ∀ t ∈ taken, (t.1.min = 0 ∧ t.2.size = 0) ∨ (max t.1.min 1 ≤ t.2.size ∧ t.1.max.admits t.2.size = true) := by
  induction h with
  | done => exact List.forall_mem_nil _
  | consumed hspan _ ih => exact List.forall_mem_cons.mpr ⟨Or.inr ⟨hspan.low, hspan.high⟩, ih⟩
  | absent hmin _ ih => exact List.forall_mem_cons.mpr ⟨Or.inl ⟨hmin, Nat.sub_self _⟩, ih⟩

/-- The shape of a match that comes from the spans of the elements of a rule. -/
structure Match.IsShaped (r : Rule) (s : Sentence) (taken : List Taken) (m : Match) : Prop where
  length_positions : m.positions.length = r.positionCount
  positions_within : ∀ span ∈ m.positions, span.start ≤ span.stop ∧ span.stop ≤ s.size
  positions_ordered : m.positions.Pairwise fun a b => a.stop ≤ b.start
  pattern_nonempty : m.pattern.start < m.pattern.stop
  pattern_hull : m.pattern.IsHull m.positions
  range_within : m.range.start ≤ m.range.stop ∧ m.range.stop ≤ s.size
  range_hull : (∃ t ∈ r.markedIn taken, t.2.isEmpty = false) → m.range.IsHull ((r.markedIn taken).map (·.2))
  /-- A position with one element has the length that the element took. -/
  single : ∀ n e span, r.elementCounts[n]? = some 1 → e ∈ r.elements → e.position = n → m.positions[n]? = some span →
    (e.min = 0 ∧ span.size = 0) ∨ (max e.min 1 ≤ span.size ∧ e.max.admits span.size = true)

namespace Match

variable {r : Rule} {s : Sentence} {p : Point}

theorem isHull_positions (hordered : p.taken.Pairwise fun t t' => t.2.stop ≤ t'.2.start)
    (hpositions : ∀ t ∈ p.taken, t.1.position < r.positionCount) {c : Span} (hc : covering p.spans = some c) :
    c.IsHull (ofPoint r s p).positions := by
  have hspans {t : Taken} (ht : t ∈ p.taken) : t.2 ∈ p.spans := List.mem_map_of_mem ht
  -- A position that holds tokens is the smallest span around some of the spans, and each span lies in its position.
  constructor
  case around =>
    intro span hspan hne
    rw [positions_ofPoint, boundSpans] at hspan
    obtain ⟨n, -, rfl⟩ := List.mem_map.mp hspan
    refine covering_le (covering_spansAt_of_not_isEmpty hordered hne) (forall_mem_spansAt.mpr fun t ht _ hne => ?_)
    exact le_of_covering_eq_some hc (hspans ht) hne
  case least =>
    intro d hd
    refine covering_le hc fun span hspan hne => ?_
    obtain ⟨t, ht, rfl⟩ := List.mem_map.mp hspan
    obtain ⟨hbound, hstart, hstop⟩ := le_boundSpan hordered ht hne
    have hmem : boundSpan p.taken t.1.position ∈ (ofPoint r s p).positions := by
      rw [positions_ofPoint, boundSpans]
      exact List.mem_map_of_mem (List.mem_range.mpr (hpositions t ht))
    obtain ⟨hlow, hhigh⟩ := hd _ hmem hbound
    exact ⟨Nat.le_trans hlow hstart, Nat.le_trans hstop hhigh⟩

theorem isHull_range (h : ∃ t ∈ r.markedIn p.taken, t.2.isEmpty = false) :
    (ofPoint r s p).range.IsHull ((r.markedIn p.taken).map (·.2)) := by
  obtain ⟨front, back, -, -, hrange⟩ := exists_marked r s p
  obtain ⟨t, ht, hne⟩ := h
  rw [← hrange, markerRange]
  cases hcovering : covering ((r.markedIn p.taken).map (·.2)) with
  | none =>
    rw [covering_eq_none_iff.mp hcovering t.2 (List.mem_map_of_mem ht)] at hne
    cases hne
  | some c => exact isHull_of_covering_eq_some hcovering

end Match

namespace Rule

/-- All matches of a rule that a file is compiled to have their shape. -/
theorem findMatches_shaped {source : String} {file : RuleFile} {context : RuleContext} {d : PatternDef} {r : Rule}
    (hread : RuleFile.read source = .ok file) (hcontext : RuleContext.ofFile file = .ok context)
    (hr : ComesFrom file context d r) {s : Sentence} {limit : Option Nat} {ms : List Match}
    (h : r.findMatches s limit = .ok ms) {m : Match} (hm : m ∈ ms) :
    ∃ i p steps, r.matchAt s none i 0 = .ok (some p, steps) ∧ m = Match.ofPoint r s p ∧
      p.taken.map (·.1) = r.elements ∧ m.IsShaped r s p.taken := by
  have hwell := hr.isWellFormed_compiledPattern hread hcontext
  obtain ⟨i, p, steps, hi, hp, hmatch, rfl, helements, hassigned⟩ := exists_assigned_of_mem_findMatches h hm
  refine ⟨i, p, steps, hmatch, rfl, helements, ?_⟩
  have hcovering := covering_spans_of_mem_completionsAt hp
  have hbetween := hassigned.liesBetween (Nat.le_of_lt hi)
  have hordered := hassigned.pairwise (Nat.le_of_lt hi)
  have hpositions := hwell.pairwise_taken helements
  have hmem (n : Nat) : (∃ t ∈ p.taken, t.1.position = n) ↔ n < r.positionCount := hwell.exists_taken_iff helements
  have hrange := Match.liesBetween_range (r := r) fun span hspan =>
    (spans_of_mem_completionsAt (Nat.le_of_lt hi) hp span hspan).of_le (Nat.zero_le i)
  constructor
  case length_positions => exact Match.length_positions_ofPoint r s p
  case positions_within =>
    intro span hspan
    rw [Match.positions_ofPoint, boundSpans] at hspan
    obtain ⟨n, hn, rfl⟩ := List.mem_map.mp hspan
    have hbound := liesBetween_boundSpan hordered (fun t ht _ => hbetween t ht) ((hmem n).mpr (List.mem_range.mp hn))
    exact ⟨hbound.start_le_stop, hbound.stop_le⟩
  case positions_ordered =>
    exact pairwise_boundSpans hordered hpositions hbetween fun n hn => (hmem n).mpr hn
  case pattern_nonempty => exact Span.isEmpty_eq_false_iff.mp (isEmpty_of_covering_eq_some hcovering)
  case pattern_hull => exact Match.isHull_positions hordered (fun t ht => (hmem _).mp ⟨t, ht, rfl⟩) hcovering
  case range_within => exact ⟨hrange.start_le_stop, hrange.stop_le⟩
  case range_hull => exact Match.isHull_range
  case single =>
    rintro n e span hcount he rfl hspan
    rw [← helements] at he
    obtain ⟨t, ht, rfl⟩ := List.mem_map.mp he
    have hsingle : boundSpan p.taken t.1.position = t.2 := boundSpan_of_single ht (hwell.countP_taken helements hcount)
    rw [Match.positions_ofPoint, boundSpans, List.getElem?_map, List.getElem?_range ((hmem _).mp ⟨t, ht, rfl⟩),
      Option.map_some, Option.some_inj, hsingle] at hspan
    rw [← hspan]
    exact hassigned.size_of_mem t ht

/-- A phrase with a gap inside is marked, between two elements that may be left out. -/
def gappedPhrase : String :=
  "phrase p \x7b [pos=\"X\", skip=1] [pos=\"Y\"] \x7d rule r \x7b pattern \x7b [\"a\", min=0] marker \x7b @p \x7d " ++
    "[\"z\", min=0] \x7d message \"m\"; \x7d"

/-- The gap belongs to the position of the phrase, and the position that took no token lies behind it. -/
theorem findMatches_gappedPhrase :
    ∃ file context d r s ms m, RuleFile.read gappedPhrase = .ok file ∧ RuleContext.ofFile file = .ok context ∧
      ComesFrom file context d r ∧ r.findMatches s none = .ok ms ∧ m ∈ ms ∧ r.elementCounts = [1, 2, 1] ∧
      m.positions = [⟨0, 1⟩, ⟨1, 4⟩, .empty 4] ∧ m.pattern = ⟨0, 4⟩ ∧ m.range = ⟨1, 4⟩ ∧
      ∃ i p steps, r.matchAt s none i 0 = .ok (some p, steps) ∧ m = Match.ofPoint r s p ∧
        p.taken.map (·.1) = r.elements ∧ m.IsShaped r s p.taken := by
  have hrun : ofFirstMatch? (fun r m => (r.elementCounts, m.positions, m.pattern, m.range)) gappedPhrase
      (.ofTokens [.new "a" [], .new "x" [.of "x" "X"], .new "w" [], .new "y" [.of "y" "Y"]]) =
      some ([1, 2, 1], [⟨0, 1⟩, ⟨1, 4⟩, .empty 4], ⟨0, 4⟩, ⟨1, 4⟩) := by decide +kernel
  obtain ⟨file, context, d, r, ms, m, hread, hcontext, hcomes, hms, hm, hrun⟩ := exists_of_ofFirstMatch? hrun
  simp only [Prod.mk.injEq] at hrun
  obtain ⟨hcounts, hpositions, hpattern, hrange⟩ := hrun
  exact ⟨file, context, d, r, _, ms, m, hread, hcontext, hcomes, hms, hm, hcounts, hpositions, hpattern, hrange,
    findMatches_shaped hread hcontext hcomes hms hm⟩

end Rule

end GrammarCheck
