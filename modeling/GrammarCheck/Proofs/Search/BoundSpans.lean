import GrammarCheck.Proofs.Rule.WellFormed
import GrammarCheck.Proofs.Search.Matches

/-! What positions are bound to. The spans of a match lie one behind the other, so the spans of a position join to the
smallest one around them, and positions lie one behind the other as their elements do. A position is bound as soon as
all elements up to it have been matched: later ones do not change it. -/

namespace GrammarCheck

/-- The spans that the elements of a position took. -/
def spansAt (taken : List Taken) (position : Nat) : List Span := (taken.filter (·.1.position == position)).map (·.2)

variable {taken : List Taken} {position : Nat}

theorem mem_spansAt {span : Span} :
    span ∈ spansAt taken position ↔ ∃ t ∈ taken, t.1.position = position ∧ t.2 = span := by
  simp only [spansAt, List.mem_map, List.mem_filter, beq_iff_eq, and_assoc]

theorem forall_mem_spansAt {P : Span → Prop} :
    (∀ span ∈ spansAt taken position, P span) ↔ ∀ t ∈ taken, t.1.position = position → P t.2 := by
  simp only [spansAt, List.forall_mem_map, List.mem_filter, beq_iff_eq, and_imp]

theorem pairwise_spansAt (h : taken.Pairwise fun t t' => t.2.stop ≤ t'.2.start) (position : Nat) :
    (spansAt taken position).Pairwise fun a b => a.stop ≤ b.start :=
  List.pairwise_map.mpr (h.sublist List.filter_sublist)

theorem covering_cons_cons_of_isEmpty {first span : Span} {rest : List Span} (h : span.isEmpty = true) :
    covering (first :: span :: rest) = covering (first :: rest) := by
  simp only [covering, List.filter_cons, h, Bool.not_true, Bool.false_eq_true, if_false]

theorem isEmpty_union (first : Span) {span : Span} (h : span.isEmpty = false) : (first.union span).isEmpty = false := by
  rw [Span.isEmpty_eq_false_iff] at h ⊢
  exact Nat.lt_of_le_of_lt (Nat.min_le_right _ _) (Nat.lt_of_lt_of_le h (Nat.le_max_right _ _))

theorem stop_union_of_behind {first span : Span} (hbehind : first.stop ≤ span.start) (hspan : span.isEmpty = false) :
    (first.union span).stop = span.stop := by
  have hown := Span.isEmpty_eq_false_iff.mp hspan
  exact Nat.max_eq_right (by omega)

theorem joinSpan_of_behind {first span : Span} (hbehind : first.stop ≤ span.start) (hfirst : first.isEmpty = false)
    (hspan : span.isEmpty = false) : joinSpan (some first) span = first.union span := by
  have hown := Span.isEmpty_eq_false_iff.mp hfirst
  have hlater := Span.isEmpty_eq_false_iff.mp hspan
  rw [joinSpan, hspan, hfirst, if_neg Bool.false_ne_true, if_neg Bool.false_ne_true, Span.union,
    Nat.min_eq_left (by omega), Nat.max_eq_right (by omega)]

/-- Spans that lie one behind the other join to the smallest one around those that are not empty, or to the first one. -/
theorem foldl_joinSpan {first : Span} {rest : List Span}
    (h : (first :: rest).Pairwise fun a b => a.stop ≤ b.start) :
    rest.foldl (fun b span => some (joinSpan b span)) (some first) = some ((covering (first :: rest)).getD first) := by
  -- The first span stands for what has been joined so far, so the induction is over any first one.
  induction rest generalizing first with
  | nil =>
    cases hfirst : first.isEmpty with
    | true => rw [covering_cons_of_isEmpty hfirst]; rfl
    | false => rw [covering_cons_of_not_isEmpty hfirst]; rfl
  | cons span rest ih =>
    obtain ⟨hfirstBehind, hlater⟩ := List.pairwise_cons.mp h
    obtain ⟨hspanBehind, hrest⟩ := List.pairwise_cons.mp hlater
    rw [List.foldl_cons]
    cases hspan : span.isEmpty with
    | true =>
      have hjoin : joinSpan (some first) span = first := by rw [joinSpan, hspan, if_pos rfl]
      have hpairwise : (first :: rest).Pairwise fun a b => a.stop ≤ b.start :=
        List.pairwise_cons.mpr ⟨fun b hb => hfirstBehind b (List.mem_cons_of_mem _ hb), hrest⟩
      rw [hjoin, ih hpairwise, covering_cons_cons_of_isEmpty hspan]
    | false =>
      cases hfirst : first.isEmpty with
      | true =>
        have hjoin : joinSpan (some first) span = span := by
          rw [joinSpan, hspan, hfirst, if_neg Bool.false_ne_true, if_pos rfl]
        rw [hjoin, ih hlater, covering_cons_of_isEmpty hfirst, covering_cons_of_not_isEmpty hspan, Option.getD_some,
          Option.getD_some]
      | false =>
        have hbehind := hfirstBehind span List.mem_cons_self
        have hpairwise : (first.union span :: rest).Pairwise fun a b => a.stop ≤ b.start :=
          List.pairwise_cons.mpr ⟨fun b hb => stop_union_of_behind hbehind hspan ▸ hspanBehind b hb, hrest⟩
        rw [joinSpan_of_behind hbehind hfirst hspan, ih hpairwise,
          covering_cons_of_not_isEmpty (isEmpty_union first hspan), covering_cons_of_not_isEmpty hfirst,
          covering_cons_of_not_isEmpty hspan]
        cases covering rest with
        | none => rfl
        | some c =>
          have hassoc : (first.union span).union c = first.union (span.union c) := Std.Associative.assoc first span c
          exact congrArg some hassoc

/-- A position is bound to the smallest span around those of its elements, or to the first one if all are empty. -/
theorem boundSpan_eq_covering (h : taken.Pairwise fun t t' => t.2.stop ≤ t'.2.start) (position : Nat) :
    boundSpan taken position =
      (covering (spansAt taken position)).getD ((spansAt taken position).head?.getD (.empty 0)) := by
  have hbound : boundSpan taken position =
      ((spansAt taken position).foldl (fun b span => some (joinSpan b span)) none).getD (.empty 0) := rfl
  have hpairwise := pairwise_spansAt h position
  rw [hbound]
  cases hspans : spansAt taken position with
  | nil => rfl
  | cons first rest =>
    rw [hspans] at hpairwise
    rw [List.foldl_cons, show joinSpan none first = first from rfl, foldl_joinSpan hpairwise]
    rfl

theorem covering_spansAt_of_not_isEmpty (h : taken.Pairwise fun t t' => t.2.stop ≤ t'.2.start)
    (hne : (boundSpan taken position).isEmpty = false) :
    covering (spansAt taken position) = some (boundSpan taken position) := by
  rw [boundSpan_eq_covering h] at hne ⊢
  cases hcovering : covering (spansAt taken position) with
  | some c => rfl
  | none =>
    rw [hcovering, Option.getD_none] at hne
    cases hspans : spansAt taken position with
    | nil =>
      rw [hspans] at hne
      cases hne
    | cons first rest =>
      have hempty := covering_eq_none_iff.mp hcovering first (hspans ▸ List.mem_cons_self)
      rw [hspans, List.head?_cons, Option.getD_some, hempty] at hne
      cases hne

theorem le_boundSpan (h : taken.Pairwise fun t t' => t.2.stop ≤ t'.2.start) {t : Taken} (ht : t ∈ taken)
    (hne : t.2.isEmpty = false) : (boundSpan taken t.1.position).isEmpty = false ∧
      (boundSpan taken t.1.position).start ≤ t.2.start ∧ t.2.stop ≤ (boundSpan taken t.1.position).stop := by
  have hmem : t.2 ∈ spansAt taken t.1.position := mem_spansAt.mpr ⟨t, ht, rfl, rfl⟩
  rw [boundSpan_eq_covering h]
  cases hcovering : covering (spansAt taken t.1.position) with
  | none =>
    rw [covering_eq_none_iff.mp hcovering t.2 hmem] at hne
    cases hne
  | some c => exact ⟨isEmpty_of_covering_eq_some hcovering, le_of_covering_eq_some hcovering hmem hne⟩

theorem liesBetween_boundSpan (h : taken.Pairwise fun t t' => t.2.stop ≤ t'.2.start) {low high : Nat}
    (hspans : ∀ t ∈ taken, t.1.position = position → t.2.LiesBetween low high)
    (hne : ∃ t ∈ taken, t.1.position = position) : (boundSpan taken position).LiesBetween low high := by
  have hown : ∀ span ∈ spansAt taken position, span.LiesBetween low high := forall_mem_spansAt.mpr hspans
  rw [boundSpan_eq_covering h]
  cases hcovering : covering (spansAt taken position) with
  | some c => exact covering_eq_some hown hcovering
  | none =>
    obtain ⟨t, ht, hposition⟩ := hne
    cases hlist : spansAt taken position with
    | nil =>
      have hmem := mem_spansAt.mpr ⟨t, ht, hposition, rfl⟩
      rw [hlist] at hmem
      exact absurd hmem List.not_mem_nil
    | cons first rest => exact hown first (hlist ▸ List.mem_cons_self)

/-- A position that is bound to tokens is bound to tokens of the sentence. -/
theorem start_lt_of_mem_boundSpans (h : taken.Pairwise fun t t' => t.2.stop ≤ t'.2.start) {low high : Nat}
    (hspans : ∀ t ∈ taken, t.2.LiesBetween low high) (positions : Nat) :
    ∀ span ∈ boundSpans taken positions, span.isEmpty = false → span.start < high := by
  intro span hspan hne
  obtain ⟨n, -, rfl⟩ := List.mem_map.mp hspan
  have hown : ∀ span ∈ spansAt taken n, span.LiesBetween low high := forall_mem_spansAt.mpr fun t ht _ => hspans t ht
  have hbound := covering_eq_some hown (covering_spansAt_of_not_isEmpty h hne)
  exact Nat.lt_of_lt_of_le (Span.isEmpty_eq_false_iff.mp hne) hbound.stop_le

theorem stop_le_start_of_position_lt (h : taken.Pairwise fun t t' => t.2.stop ≤ t'.2.start)
    (hpositions : taken.Pairwise fun t t' => t.1.position ≤ t'.1.position) {t t' : Taken} (ht : t ∈ taken)
    (ht' : t' ∈ taken) (hlt : t.1.position < t'.1.position) : t.2.stop ≤ t'.2.start := by
  obtain ⟨before, after, rfl⟩ := List.append_of_mem ht
  rcases List.mem_append.mp ht' with hbefore | hafter
  · have hle := (List.pairwise_append.mp hpositions).2.2 t' hbefore t List.mem_cons_self
    exact absurd hlt (Nat.not_lt_of_le hle)
  · rcases List.mem_cons.mp hafter with rfl | hafter
    · exact absurd hlt (Nat.lt_irrefl _)
    · exact (List.pairwise_cons.mp (List.pairwise_append.mp h).2.1).1 t' hafter

theorem stop_boundSpan_le (h : taken.Pairwise fun t t' => t.2.stop ≤ t'.2.start)
    (hpositions : taken.Pairwise fun t t' => t.1.position ≤ t'.1.position) {low high : Nat}
    (hspans : ∀ t ∈ taken, t.2.LiesBetween low high) {i j : Nat} (hij : i < j)
    (hi : ∃ t ∈ taken, t.1.position = i) (hj : ∃ t ∈ taken, t.1.position = j) :
    (boundSpan taken i).stop ≤ (boundSpan taken j).start := by
  have hstop {t' : Taken} (ht' : t' ∈ taken) (hposition' : t'.1.position = j) :
      (boundSpan taken i).stop ≤ t'.2.start := by
    have hbound : (boundSpan taken i).LiesBetween low t'.2.start := by
      refine liesBetween_boundSpan h (fun t ht hposition => ?_) hi
      have hlt : t.1.position < t'.1.position := by rw [hposition, hposition']; exact hij
      exact ⟨(hspans t ht).low_le, (hspans t ht).start_le_stop, stop_le_start_of_position_lt h hpositions ht ht' hlt⟩
    exact hbound.stop_le
  have hbound : (boundSpan taken j).LiesBetween (boundSpan taken i).stop high := by
    refine liesBetween_boundSpan h (fun t' ht' hposition' => ?_) hj
    exact ⟨hstop ht' hposition', (hspans t' ht').start_le_stop, (hspans t' ht').stop_le⟩
  exact hbound.low_le

theorem pairwise_boundSpans (h : taken.Pairwise fun t t' => t.2.stop ≤ t'.2.start)
    (hpositions : taken.Pairwise fun t t' => t.1.position ≤ t'.1.position) {low high : Nat}
    (hspans : ∀ t ∈ taken, t.2.LiesBetween low high) {positions : Nat}
    (htaken : ∀ n < positions, ∃ t ∈ taken, t.1.position = n) :
    (boundSpans taken positions).Pairwise fun a b => a.stop ≤ b.start := by
  rw [boundSpans, List.pairwise_map]
  refine List.pairwise_lt_range.imp_of_mem fun {n n'} hn hn' hlt => ?_
  have hown := htaken n (List.mem_range.mp hn)
  have hlater := htaken n' (List.mem_range.mp hn')
  exact stop_boundSpan_le h hpositions hspans hlt hown hlater

theorem boundSpan_of_single {t : Taken} (ht : t ∈ taken) (hsingle : taken.countP (·.1.position == t.1.position) = 1) :
    boundSpan taken t.1.position = t.2 := by
  rw [List.countP_eq_length_filter, List.length_eq_one_iff] at hsingle
  obtain ⟨t', hfilter⟩ := hsingle
  have hmem : t ∈ taken.filter (·.1.position == t.1.position) := List.mem_filter.mpr ⟨ht, beq_self_eq_true _⟩
  rw [hfilter, List.mem_singleton] at hmem
  unfold boundSpan
  rw [hfilter, hmem]
  rfl

/-- The positions before an element are bound when the search comes to it. -/
theorem boundSpans_before {before after : List Taken} {positions position : Nat} (hle : position ≤ positions)
    (hafter : ∀ t ∈ after, position ≤ t.1.position) :
    boundSpans before position = (boundSpans (before ++ after) positions).take position := by
  unfold boundSpans
  rw [← List.map_take, List.take_range, Nat.min_eq_left hle]
  refine List.map_congr_left fun n hn => ?_
  have hnone : after.filter (·.1.position == n) = [] := by
    refine List.filter_eq_nil_iff.mpr fun t ht hposition => ?_
    have hlater := hafter t ht
    have hearlier := List.mem_range.mp hn
    rw [beq_iff_eq] at hposition
    omega
  unfold boundSpan
  rw [List.filter_append, hnone, List.append_nil]

namespace Compile.CompiledPattern.IsWellFormed

variable {context : RuleContext} {d : PatternDef} {p : CompiledPattern}

theorem pairwise_taken (h : p.IsWellFormed context d) (helements : taken.map (·.1) = p.elements) :
    taken.Pairwise fun t t' => t.1.position ≤ t'.1.position := by
  have hown := h.pairwise_positions
  rwa [← helements, List.pairwise_map] at hown

theorem exists_taken_iff (h : p.IsWellFormed context d) (helements : taken.map (·.1) = p.elements) {n : Nat} :
    (∃ t ∈ taken, t.1.position = n) ↔ n < p.elementCounts.length := by
  rw [← h.mem_positions_iff, ← helements, List.map_map, List.mem_map]
  rfl

theorem countP_taken (h : p.IsWellFormed context d) (helements : taken.map (·.1) = p.elements) {n count : Nat}
    (hcount : p.elementCounts[n]? = some count) : taken.countP (·.1.position == n) = count := by
  rw [← h.countP_position hcount, ← helements, List.countP_map]
  rfl

end Compile.CompiledPattern.IsWellFormed

namespace Match

theorem positions_ofPoint (r : Rule) (s : Sentence) (p : Point) :
    (ofPoint r s p).positions = boundSpans p.taken r.positionCount := rfl

theorem length_positions_ofPoint (r : Rule) (s : Sentence) (p : Point) :
    (ofPoint r s p).positions.length = r.positionCount := by
  rw [positions_ofPoint, boundSpans, List.length_map, List.length_range]

end Match

end GrammarCheck
