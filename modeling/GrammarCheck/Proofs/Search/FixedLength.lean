import GrammarCheck.Proofs.Rule.WellFormed
import GrammarCheck.Proofs.Search.Matches
import Mathlib.Data.List.Chain

/-! Markers of one length. If every marked element takes a fixed number of tokens and none is followed by a gap inside
the marker, the marked tokens stand side by side, and there are always as many of them. -/

namespace GrammarCheck

/-- Elements that take a fixed number of tokens each, without gaps between them. -/
structure IsFixedRun (elements : List Element) : Prop where
  fixed : ∀ e ∈ elements, 1 ≤ e.min ∧ e.max = .upTo e.min
  close : elements.IsChain fun e _ => e.skip = .upTo 0

def minTokens (taken : List Taken) : Nat := (taken.map (·.1.min)).sum

theorem Rule.isFixedRun_of_fixedLength? {elements : List Element} (hpos : ∀ e ∈ elements, e.max.admits 1 = true)
    {n : Nat} (h : fixedLength? elements = some n) :
    IsFixedRun elements ∧ n = (elements.map (·.min)).sum % UInt64.size := by
  induction elements generalizing n with
  | nil => exact ⟨⟨List.forall_mem_nil _, .nil⟩, (Option.some_inj.mp h).symm⟩
  | cons e rest ih =>
    obtain ⟨hfirst, hothers⟩ := List.forall_mem_cons.mp hpos
    rw [fixedLength?_cons, Option.ite_none_right_eq_some] at h
    obtain ⟨⟨hmax, hgap⟩, others, hlater, rfl⟩ := And.imp_right Option.map_eq_some_iff.mp h
    obtain ⟨⟨hfixed, hclose⟩, rfl⟩ := ih hothers hlater
    have hone : 1 ≤ e.min := by
      rw [hmax] at hfirst
      exact of_decide_eq_true hfirst
    refine ⟨⟨List.forall_mem_cons.mpr ⟨⟨hone, hmax⟩, hfixed⟩, ?_⟩, ?_⟩
    · cases rest with
      | nil => exact .singleton e
      | cons next rest => exact .cons_cons (hgap.resolve_left (List.cons_ne_nil _ _)) hclose
    · rw [List.map_cons, List.sum_cons, Nat.add_mod_mod]

theorem Span.union_of_adjacent {i j k : Nat} (hij : i ≤ j) (hjk : j ≤ k) :
    (Span.mk i j).union ⟨j, k⟩ = ⟨i, k⟩ := by
  rw [union, Nat.min_eq_left hij, Nat.max_eq_right hjk]

namespace Assigned

variable {s : Sentence} {cursor : Nat} {gap : Bound} {guard : Option Element} {before marked rest : List Taken}

/-- Elements of a fixed run are never left out, and each starts where the one before it stopped. -/
theorem covering_of_isFixedRun (h : Assigned s cursor gap guard before (marked ++ rest))
    (hfixed : IsFixedRun (marked.map (·.1))) (hne : marked ≠ []) :
    (∀ t ∈ marked, t.2.size = t.1.min) ∧
      ∃ i, (gap = .upTo 0 → i = cursor) ∧ covering (marked.map (·.2)) = some ⟨i, i + minTokens marked⟩ := by
  induction marked generalizing cursor gap guard before with
  | nil => exact absurd rfl hne
  | cons first marked ih =>
    obtain ⟨e, span⟩ := first
    obtain ⟨⟨hmin, hmax⟩, hothers⟩ := List.forall_mem_cons.mp hfixed.fixed
    have htail : IsFixedRun (marked.map (·.1)) := ⟨hothers, hfixed.close.tail⟩
    dsimp only at hmin hmax
    cases h with
    | absent hzero _ => exact absurd hzero (Nat.pos_iff_ne_zero.mp hmin)
    | consumed hspan hrest =>
      obtain ⟨i, j⟩ := span
      have hsize : (Span.mk i j).size = e.min := by
        have hlow := hspan.low
        have hhigh := hspan.high
        rw [hmax] at hhigh
        exact Nat.le_antisymm (of_decide_eq_true hhigh) (Nat.le_trans (Nat.le_max_left _ _) hlow)
      have hstop : j = i + e.min := by
        unfold Span.size at hsize
        dsimp only at hsize
        omega
      have hstart : gap = .upTo 0 → i = cursor := by
        rintro rfl
        have hgap : i - cursor ≤ 0 := of_decide_eq_true hspan.in_gap
        have hcursor : cursor ≤ i := hspan.cursor_le
        omega
      have hnonempty : (Span.mk i j).isEmpty = false := by
        rw [Span.isEmpty_eq_false_iff]
        dsimp only
        omega
      have hsizes : ∀ t ∈ marked, t.2.size = t.1.min := fun t ht => (ih hrest htail (List.ne_nil_of_mem ht)).1 t ht
      refine ⟨List.forall_mem_cons.mpr ⟨hsize, hsizes⟩, i, hstart, ?_⟩
      have hsum : i + minTokens ((e, ⟨i, j⟩) :: marked) = j + minTokens marked := by
        rw [minTokens, List.map_cons, List.sum_cons, hstop, Nat.add_assoc]
        rfl
      rw [List.map_cons, covering_cons_of_not_isEmpty hnonempty, hsum]
      cases marked with
      | nil => rfl
      | cons next marked =>
        -- The gap behind the element is closed, so the next one starts at its end.
        have hskip : e.skip = .upTo 0 := (List.isChain_cons_cons.mp hfixed.close).1
        obtain ⟨-, i', hi', hcovering⟩ := ih hrest htail (List.cons_ne_nil _ _)
        rw [hcovering, hi' hskip, Option.map_some, Option.getD_some,
          Span.union_of_adjacent (by omega) (Nat.le_add_right _ _)]

end Assigned

namespace Match

theorem countP_contains_eq_size {range span : Span} (h : range.start ≤ span.start ∧ span.stop ≤ range.stop) :
    span.indices.countP range.contains = span.size := by
  have hall : span.indices.countP range.contains = span.indices.length := by
    rw [List.countP_eq_length]
    intro i hi
    rw [Span.mem_indices] at hi
    rw [Span.contains_iff]
    omega
  rw [hall, Span.indices, List.length_range']

theorem unifiedIn_append (range : Span) (taken taken' : List Taken) :
    unifiedIn range (taken ++ taken') = unifiedIn range taken + unifiedIn range taken' := by
  rw [unifiedIn, List.filter_append, List.flatMap_append, List.countP_append]
  rfl

/-- Elements outside of a span do not count, and in an empty one none does. -/
theorem unifiedIn_eq_zero {range : Span} {taken : List Taken}
    (h : ∀ t ∈ taken, range.isEmpty = true ∨ t.2.stop ≤ range.start ∨ range.stop ≤ t.2.start) :
    unifiedIn range taken = 0 := by
  rw [unifiedIn, List.countP_eq_zero]
  intro i hi
  obtain ⟨t, ht, hi⟩ := List.mem_flatMap.mp hi
  have hout := h t (List.mem_filter.mp ht).1
  rw [Span.isEmpty_iff] at hout
  rw [Span.mem_indices] at hi
  rw [Span.contains_iff]
  omega

theorem unifiedIn_eq_minTokens {range : Span} {taken : List Taken} (hagreement : ∀ t ∈ taken, t.1.agreement.isSome)
    (hinside : ∀ t ∈ taken, range.start ≤ t.2.start ∧ t.2.stop ≤ range.stop)
    (hsize : ∀ t ∈ taken, t.2.size = t.1.min) : unifiedIn range taken = minTokens taken := by
  rw [unifiedIn, List.filter_eq_self.mpr hagreement, List.countP_flatMap]
  refine congrArg List.sum (List.map_congr_left fun t ht => ?_)
  dsimp only [Function.comp_apply]
  rw [countP_contains_eq_size (hinside t ht), hsize t ht]

end Match

/-- A marker that is a fixed run covers as many tokens as its elements need, and all of them count for agreement if all
the elements belong to groups. -/
theorem Assigned.markerRange_of_isFixedRun {s : Sentence} {cursor : Nat} {gap : Bound} {guard : Option Element}
    {before front marked back : List Taken} (h : Assigned s cursor gap guard before (front ++ (marked ++ back)))
    (hcursor : cursor ≤ s.size) (hfixed : IsFixedRun (marked.map (·.1))) {pattern range : Span}
    (hrange : Match.markerRange (marked.map (·.2)) pattern = range) :
    range.size = minTokens marked ∧ minTokens marked ≤ s.size ∧
      ((∀ t ∈ marked, t.1.agreement.isSome) →
        Match.unifiedIn range (front ++ (marked ++ back)) = minTokens marked) := by
  rcases eq_or_ne marked [] with rfl | hne
  · subst hrange
    refine ⟨Nat.sub_self _, Nat.zero_le _, fun _ => Match.unifiedIn_eq_zero fun _ _ => Or.inl ?_⟩
    exact decide_eq_true (Nat.le_refl _)
  · obtain ⟨low, hlow, ⟨_, _, _, hrest⟩, hfront, -⟩ := h.exists_rest hcursor
    obtain ⟨high, hhigh, ⟨_, _, _, hback⟩, hinside, -⟩ := hrest.exists_rest hlow
    have hbehind := hback.liesBetween hhigh
    obtain ⟨hsize, i, -, hcovering⟩ := hrest.covering_of_isFixedRun hfixed hne
    have hbetween : (Span.mk i (i + minTokens marked)).LiesBetween low high :=
      covering_eq_some (List.forall_mem_map.mpr hinside) hcovering
    have hrangeEq : range = ⟨i, i + minTokens marked⟩ := by
      rw [← hrange, Match.markerRange, hcovering]
      rfl
    have hlowLe : low ≤ i := hbetween.low_le
    have hhighLe : i + minTokens marked ≤ high := hbetween.stop_le
    subst hrangeEq
    refine ⟨Nat.add_sub_cancel_left _ _, by omega, fun hagreement => ?_⟩
    -- The elements before the marker and behind it took no token of it.
    have hcovered : ∀ t ∈ marked, i ≤ t.2.start ∧ t.2.stop ≤ i + minTokens marked := by
      intro t ht
      have hpos : 0 < t.2.size := by
        rw [hsize t ht]
        exact (hfixed.fixed t.1 (List.mem_map_of_mem ht)).1
      have hnonempty : t.2.isEmpty = false := by
        rw [Span.isEmpty_eq_false_iff]
        unfold Span.size at hpos
        omega
      exact le_of_covering_eq_some hcovering (List.mem_map_of_mem ht) hnonempty
    have hzeroFront : Match.unifiedIn ⟨i, i + minTokens marked⟩ front = 0 :=
      Match.unifiedIn_eq_zero fun t ht => Or.inr (Or.inl (Nat.le_trans (hfront t ht).stop_le hlowLe))
    have hzeroBack : Match.unifiedIn ⟨i, i + minTokens marked⟩ back = 0 :=
      Match.unifiedIn_eq_zero fun t ht => Or.inr (Or.inr (Nat.le_trans hhighLe (hbehind t ht).low_le))
    rw [Match.unifiedIn_append, Match.unifiedIn_append, hzeroFront, hzeroBack,
      Match.unifiedIn_eq_minTokens hagreement hcovered hsize, Nat.zero_add, Nat.add_zero]

namespace Rule

variable {r : Rule} {s : Sentence}

theorem range_of_isFixedRun {i : Nat} {p : Point} (h : p ∈ r.completionsAt s i) (hi : i ≤ s.size)
    (hfixed : IsFixedRun r.markerElements) :
    (Match.ofPoint r s p).range.size = (r.markerElements.map (·.min)).sum ∧
      (r.markerElements.map (·.min)).sum ≤ s.size ∧
      ((∀ e ∈ r.markerElements, e.agreement.isSome) →
        (Match.ofPoint r s p).markerUnifiedTokens = (r.markerElements.map (·.min)).sum) := by
  obtain ⟨taken, htaken, helements, hassigned, -, -⟩ := Search.assignment_of_mem_completions r.features s h
  obtain rfl : p.taken = taken := htaken
  obtain ⟨front, back, hsplit, -, hrange⟩ := Match.exists_marked r s p
  have hmarker : r.markerElements = (r.markedIn p.taken).map (·.1) := by
    rw [markerElements, ← helements, markedIn, List.map_take, List.map_drop]
  generalize r.markedIn p.taken = marked at hsplit hrange hmarker
  have hunified : (Match.ofPoint r s p).markerUnifiedTokens =
      Match.unifiedIn (Match.ofPoint r s p).range (front ++ (marked ++ back)) := by
    rw [← hsplit]
    rfl
  have hmin : (r.markerElements.map (·.min)).sum = minTokens marked := by
    rw [hmarker, List.map_map]
    rfl
  rw [hmarker] at hfixed
  rw [hsplit] at hassigned
  rw [hunified, hmin, hmarker, List.forall_mem_map]
  exact hassigned.markerRange_of_isFixedRun hi hfixed hrange

/-- The length is counted in 64 bits, like the tokens of a sentence, so no sentence has a match where the sum is too
large for it. -/
theorem range_of_fixedMarkerLength? (hr : r.IsCompiled) {n : Nat} (hn : r.fixedMarkerLength? = some n)
    (hs : s.size < UInt64.size) {limit : Option Nat} {ms : List Match} (h : r.findMatches s limit = .ok ms) :
    ∀ m ∈ ms, m.range.size = n ∧ (r.markerAgreementCount = r.marker.size → m.markerUnifiedTokens = n) := by
  intro m hm
  obtain ⟨i, hi, p, hp, rfl⟩ := exists_completion_of_mem_findMatches h hm
  have hpos : ∀ e ∈ r.markerElements, e.max.admits 1 = true :=
    fun e he => (hr.isChecked e (List.mem_of_mem_drop (List.mem_of_mem_take he))).max_pos
  obtain ⟨hfixed, hsum⟩ := isFixedRun_of_fixedLength? hpos hn
  obtain ⟨hsize, hle, hunified⟩ := range_of_isFixedRun (List.mem_of_mem_head? hp) (Nat.le_of_lt hi) hfixed
  rw [Nat.mod_eq_of_lt (Nat.lt_of_le_of_lt hle hs)] at hsum
  subst hsum
  refine ⟨hsize, fun hcount => hunified ?_⟩
  -- The marker holds no more elements than it has places, so none of them is outside of a group.
  have hlength : r.markerElements.length ≤ r.marker.size := List.length_take_le _ _
  have hcountLe : r.markerAgreementCount ≤ r.markerElements.length := List.countP_le_length
  have hall : r.markerElements.countP (·.agreement.isSome) = r.markerElements.length :=
    Nat.le_antisymm hcountLe (hlength.trans (Nat.le_of_eq hcount.symm))
  exact List.countP_eq_length.mp hall

end Rule

end GrammarCheck
