import GrammarCheck.Proofs.Search.Covering
import GrammarCheck.Proofs.Search.Matching
import GrammarCheck.Proofs.Search.Scan

/-! Where matches lie. A match is made from a completion of the search at a token, so the spans of its elements lie in
the sentence, one behind the other, and the spans of the pattern and of the marker lie there too. -/

namespace GrammarCheck

/-- The span lies between two indices. It may be empty. -/
structure Span.LiesBetween (low high : Nat) (span : Span) : Prop where
  low_le : low ≤ span.start
  start_le_stop : span.start ≤ span.stop
  stop_le : span.stop ≤ high

theorem Span.LiesBetween.of_le {low low' high : Nat} {span : Span} (h : span.LiesBetween low' high) (hlow : low ≤ low') :
    span.LiesBetween low high :=
  ⟨Nat.le_trans hlow h.low_le, h.start_le_stop, h.stop_le⟩

theorem Span.liesBetween_empty {low high i : Nat} (hlow : low ≤ i) (hhigh : i ≤ high) :
    (Span.empty i).LiesBetween low high :=
  ⟨hlow, Nat.le_refl i, hhigh⟩

namespace Assigned

variable {s : Sentence} {cursor : Nat} {gap : Bound} {guard : Option Element} {before taken : List Taken}

/-- The spans of an assignment lie between the cursor and the end of the sentence. -/
theorem liesBetween (h : Assigned s cursor gap guard before taken) (hcursor : cursor ≤ s.size) :
    ∀ t ∈ taken, t.2.LiesBetween cursor s.size := by
  induction h with
  | done => exact List.forall_mem_nil _
  | @consumed cursor _ _ _ _ span _ hspan _ ih =>
    have hlow := hspan.low
    unfold Span.size at hlow
    have hstart : span.start ≤ span.stop := by omega
    have hstop : cursor ≤ span.stop := Nat.le_trans hspan.cursor_le hstart
    have hlater := ih hspan.stop_le
    exact List.forall_mem_cons.mpr ⟨⟨hspan.cursor_le, hstart, hspan.stop_le⟩, fun t ht => (hlater t ht).of_le hstop⟩
  | absent _ _ ih =>
    exact List.forall_mem_cons.mpr ⟨Span.liesBetween_empty (Nat.le_refl _) hcursor, ih hcursor⟩

/-- The spans of an assignment lie one behind the other. -/
theorem pairwise (h : Assigned s cursor gap guard before taken) (hcursor : cursor ≤ s.size) :
    taken.Pairwise fun t t' => t.2.stop ≤ t'.2.start := by
  induction h with
  | done => exact List.Pairwise.nil
  | consumed hspan hrest ih =>
    have hlater := hrest.liesBetween hspan.stop_le
    exact List.pairwise_cons.mpr ⟨fun t ht => (hlater t ht).low_le, ih hspan.stop_le⟩
  | absent _ hrest ih =>
    have hlater := hrest.liesBetween hcursor
    exact List.pairwise_cons.mpr ⟨fun t ht => (hlater t ht).low_le, ih hcursor⟩

/-- The elements from one on are matched from a cursor on. Those before it took tokens up to there, and if they took none
the cursor is still where it was. -/
theorem exists_rest {front rest : List Taken} (h : Assigned s cursor gap guard before (front ++ rest))
    (hcursor : cursor ≤ s.size) :
    ∃ cursor' ≤ s.size, (∃ gap' guard' before', Assigned s cursor' gap' guard' before' rest) ∧
      (∀ t ∈ front, t.2.LiesBetween cursor cursor') ∧
      (cursor' = cursor ∨ ∃ t ∈ front, t.2.isEmpty = false ∧ t.2.stop = cursor') := by
  induction front generalizing cursor gap guard before with
  | nil => exact ⟨cursor, hcursor, ⟨gap, guard, before, h⟩, List.forall_mem_nil _, Or.inl rfl⟩
  | cons first front ih =>
    have hbetween := h.liesBetween hcursor first List.mem_cons_self
    cases h with
    | @consumed _ _ _ _ _ span _ hspan hrest =>
      obtain ⟨cursor', hsize, hassigned, hfront, hreached⟩ := ih hrest hspan.stop_le
      have hlow := hspan.low
      unfold Span.size at hlow
      have hne : span.isEmpty = false := Span.isEmpty_eq_false_iff.mpr (by omega)
      have hstop : cursor ≤ span.stop := Nat.le_trans hbetween.low_le hbetween.start_le_stop
      rcases hreached with rfl | ⟨t, ht, htne, htstop⟩
      · refine ⟨span.stop, hsize, hassigned, List.forall_mem_cons.mpr ⟨?_, ?_⟩, Or.inr ⟨_, List.mem_cons_self, hne, rfl⟩⟩
        · exact ⟨hbetween.low_le, hbetween.start_le_stop, Nat.le_refl _⟩
        · exact fun t ht => (hfront t ht).of_le hstop
      · have hle : span.stop ≤ cursor' := htstop ▸ (hfront t ht).low_le.trans (hfront t ht).start_le_stop
        refine ⟨cursor', hsize, hassigned, List.forall_mem_cons.mpr ⟨?_, ?_⟩,
          Or.inr ⟨t, List.mem_cons_of_mem _ ht, htne, htstop⟩⟩
        · exact ⟨hbetween.low_le, hbetween.start_le_stop, hle⟩
        · exact fun t ht => (hfront t ht).of_le hstop
    | absent _ hrest =>
      obtain ⟨cursor', hsize, hassigned, hfront, hreached⟩ := ih hrest hcursor
      have hle : cursor ≤ cursor' := by
        rcases hreached with rfl | ⟨t, ht, -, htstop⟩
        · exact Nat.le_refl _
        · exact htstop ▸ (hfront t ht).low_le.trans (hfront t ht).start_le_stop
      refine ⟨cursor', hsize, hassigned,
        List.forall_mem_cons.mpr ⟨Span.liesBetween_empty (Nat.le_refl _) hle, hfront⟩, ?_⟩
      rcases hreached with hsame | ⟨t, ht, hstop⟩
      · exact Or.inl hsame
      · exact Or.inr ⟨t, List.mem_cons_of_mem _ ht, hstop⟩

end Assigned

theorem covering_eq_some {low high : Nat} {spans : List Span} (hspans : ∀ span ∈ spans, span.LiesBetween low high)
    {c : Span} (h : covering spans = some c) : c.LiesBetween low high := by
  obtain ⟨hlow, hhigh⟩ := covering_le h fun span hspan _ => ⟨(hspans span hspan).low_le, (hspans span hspan).stop_le⟩
  have hlt := Span.isEmpty_eq_false_iff.mp (isEmpty_of_covering_eq_some h)
  exact ⟨hlow, Nat.le_of_lt hlt, hhigh⟩

/-- What the elements of the marker took. -/
def Rule.markedIn (r : Rule) (taken : List Taken) : List Taken := (taken.drop r.marker.start).take r.marker.size

namespace Match

theorem liesBetween_markerRange {low high : Nat} {marked : List Span} {pattern : Span}
    (hmarked : ∀ span ∈ marked, span.LiesBetween low high) (hpattern : pattern.LiesBetween low high) :
    (markerRange marked pattern).LiesBetween low high := by
  unfold markerRange
  cases hcovering : covering marked with
  | some c => exact covering_eq_some hmarked hcovering
  | none =>
    -- The empty marker lies at the start of a span.
    have hstart (span : Span) (h : span.LiesBetween low high) : (Span.empty span.start).LiesBetween low high :=
      Span.liesBetween_empty h.low_le (Nat.le_trans h.start_le_stop h.stop_le)
    cases marked with
    | nil => exact hstart pattern hpattern
    | cons first rest => exact hstart first (hmarked first List.mem_cons_self)

/-- The spans of a match are those before the marker, in it and behind it. -/
theorem exists_marked (r : Rule) (s : Sentence) (p : Point) : ∃ front back,
    p.taken = front ++ (r.markedIn p.taken ++ back) ∧
    (r.markedIn p.taken ≠ [] → p.taken.take r.marker.stop = front ++ r.markedIn p.taken) ∧
    markerRange ((r.markedIn p.taken).map (·.2)) (ofPoint r s p).pattern = (ofPoint r s p).range := by
  unfold Rule.markedIn
  refine ⟨p.taken.take r.marker.start, (p.taken.drop r.marker.start).drop r.marker.size, ?_, fun hne => ?_, ?_⟩
  · rw [List.take_append_drop, List.take_append_drop]
  · have hsize : r.marker.size ≠ 0 := by
      intro hzero
      rw [hzero, List.take_zero] at hne
      exact hne rfl
    have hstop : r.marker.stop = r.marker.start + r.marker.size := by
      unfold Span.size at hsize ⊢
      omega
    rw [hstop, List.take_add]
  · rw [List.map_take, List.map_drop]
    rfl

/-- The reported tokens are tokens of the sentence. -/
theorem liesBetween_range {r : Rule} {s : Sentence} {p : Point} (h : ∀ span ∈ p.spans, span.LiesBetween 0 s.size) :
    (ofPoint r s p).range.LiesBetween 0 s.size := by
  have hpattern : ((covering p.spans).getD (.empty 0)).LiesBetween 0 s.size := by
    cases hcovering : covering p.spans with
    | some c => exact covering_eq_some h hcovering
    | none => exact Span.liesBetween_empty (Nat.le_refl 0) (Nat.zero_le _)
  exact liesBetween_markerRange (fun span hspan => h span (List.mem_of_mem_drop (List.mem_of_mem_take hspan))) hpattern

end Match

namespace Rule

variable {r : Rule} {s : Sentence} {limit : Option Nat}

/-- What a search finds is the first completion. -/
theorem matchAt_eq_ok {i steps steps' : Nat} {found : Option Point}
    (h : r.matchAt s limit i steps = .ok (found, steps')) : found = (r.completionsAt s i).head? := by
  obtain ⟨cost, hcost⟩ := r.matchAt_metered s i
  rw [hcost] at h
  rcases Search.metered_cases limit (r.completionsAt s i).head? (1 + cost) steps with hok | ⟨n, -, herror⟩
  · rw [hok] at h
    exact (Prod.mk.inj (Except.ok.inj h)).1.symm
  · rw [herror] at h
    exact nomatch h

theorem spans_of_mem_completionsAt {i : Nat} (hi : i ≤ s.size) {p : Point} (h : p ∈ r.completionsAt s i) :
    ∀ span ∈ p.spans, span.LiesBetween i s.size := by
  obtain ⟨taken, htaken, -, hassigned, -⟩ := Search.assignment_of_mem_completions r.features s h
  have hown : p.taken = taken := htaken
  rw [Point.spans, hown, List.forall_mem_map]
  exact hassigned.liesBetween hi

/-- The tokens of the whole pattern are those around all spans, one of which is not empty. -/
theorem covering_spans_of_mem_completionsAt {i : Nat} {p : Point} (h : p ∈ r.completionsAt s i) :
    covering p.spans = some (Match.ofPoint r s p).pattern := by
  have hpattern : (Match.ofPoint r s p).pattern = (covering p.spans).getD (.empty 0) := rfl
  obtain ⟨-, -, -, -, -, hne⟩ := Search.assignment_of_mem_completions r.features s h
  obtain ⟨span, hspan, hspanNe⟩ := List.any_eq_true.mp hne
  rw [hpattern]
  cases hcovering : covering p.spans with
  | none =>
    rw [covering_eq_none_iff.mp hcovering span hspan] at hspanNe
    cases hspanNe
  | some c => rfl

/-- Every match comes from a search that starts at a token. -/
theorem exists_completion_of_mem_findMatches {ms : List Match} (h : r.findMatches s limit = .ok ms) {m : Match}
    (hm : m ∈ ms) : ∃ j < s.size, ∃ p, (r.completionsAt s j).head? = some p ∧ m = Match.ofPoint r s p := by
  obtain rfl := eq_scan_of_findMatches h
  obtain ⟨⟨j, m⟩, hmem, rfl⟩ := List.mem_map.mp hm
  obtain ⟨-, hj, hfound⟩ := of_mem_scanFrom hmem
  exact ⟨j, hj, hfound⟩

/-- A match is made from what the search at a token finds: an assignment to the elements that takes a token. -/
theorem exists_assigned_of_mem_findMatches {ms : List Match} (h : r.findMatches s limit = .ok ms) {m : Match}
    (hm : m ∈ ms) : ∃ i p steps, i < s.size ∧ p ∈ r.completionsAt s i ∧ r.matchAt s none i 0 = .ok (some p, steps) ∧
      m = Match.ofPoint r s p ∧ p.taken.map (·.1) = r.elements ∧ Assigned s i (.upTo 0) none [] p.taken := by
  obtain ⟨i, hi, p, hhead, hown⟩ := exists_completion_of_mem_findMatches h hm
  have hp : p ∈ r.completionsAt s i := List.mem_of_mem_head? hhead
  obtain ⟨cost, hcost⟩ := r.matchAt_metered s i
  obtain ⟨taken, htaken, helements, hassigned, -, -⟩ := Search.assignment_of_mem_completions r.features s hp
  obtain rfl : p.taken = taken := htaken
  exact ⟨i, p, 0 + (1 + cost), hi, hp, by rw [hcost, hhead, Search.metered_none], hown, helements, hassigned⟩

theorem liesBetween_range_of_mem_findMatches {ms : List Match} (h : r.findMatches s limit = .ok ms) {m : Match}
    (hm : m ∈ ms) : m.range.LiesBetween 0 s.size := by
  obtain ⟨i, hi, p, hp, rfl⟩ := exists_completion_of_mem_findMatches h hm
  have hspans := spans_of_mem_completionsAt (Nat.le_of_lt hi) (List.mem_of_mem_head? hp)
  exact Match.liesBetween_range fun span hspan => (hspans span hspan).of_le (Nat.zero_le i)

end Rule

end GrammarCheck
