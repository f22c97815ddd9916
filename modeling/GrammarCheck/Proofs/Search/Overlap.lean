import GrammarCheck.Proofs.Search.Disjoint

/-! Matches of a rule that may overlap. A search starts at each token in turn, and a match is left out if it covers the
same tokens as the one reported before it. A match that starts where its search did lies before all later ones; one
that was found over a gap in front of it may start behind a later one, or come again after another. -/

namespace GrammarCheck

/-- Is there no gap in front of the first token that elements take? Those that may be left out before it have to come
without one, unless nothing stands behind them. -/
def Rule.opensAtOnce : List Element → Bool
  | [] => true
  | e :: rest => e.min != 0 || rest.isEmpty || e.skip == .upTo 0 && opensAtOnce rest

theorem Assigned.start_covering {s : Sentence} {cursor : Nat} {guard : Option Element} {before taken : List Taken}
    (h : Assigned s cursor (.upTo 0) guard before taken) (hopens : Rule.opensAtOnce (taken.map (·.1)) = true)
    (hcursor : cursor ≤ s.size) {c : Span} (hc : covering (taken.map (·.2)) = some c) : c.start = cursor := by
  generalize hgap : Bound.upTo 0 = gap at h
  -- Elements are left out one after another, with no gap still, up to the first one that takes a token.
  induction h with
  | done => cases hc
  | @consumed cursor gap guard before e span rest hspan hrest =>
    subst hgap
    have hlow := hspan.low
    have hgap : span.start - cursor ≤ 0 := of_decide_eq_true hspan.in_gap
    have hcursor_le := hspan.cursor_le
    unfold Span.size at hlow
    have hne : span.isEmpty = false := Span.isEmpty_eq_false_iff.mpr (by omega)
    have hbetween : ∀ span' ∈ ((e, span) :: rest).map (·.2), span'.LiesBetween cursor s.size :=
      List.forall_mem_map.mpr ((Assigned.consumed hspan hrest).liesBetween hcursor)
    have hle : cursor ≤ c.start := (covering_eq_some hbetween hc).low_le
    have hge : c.start ≤ span.start := (le_of_covering_eq_some hc List.mem_cons_self hne).1
    omega
  | @absent cursor gap guard before e rest hmin hrest ih =>
    subst hgap
    have hempty : (Span.empty cursor).isEmpty = true := Span.isEmpty_iff.mpr (Nat.le_refl cursor)
    rw [List.map_cons, covering_cons_of_isEmpty hempty] at hc
    rw [List.map_cons, Rule.opensAtOnce, hmin, bne_self_eq_false, Bool.false_or, Bool.or_eq_true,
      Bool.and_eq_true, beq_iff_eq] at hopens
    rcases hopens with hlast | ⟨hskip, hrestOpens⟩
    · rw [List.map_eq_nil_iff.mp (List.isEmpty_iff.mp hlast)] at hc
      cases hc
    · exact ih hrestOpens hcursor hc (by rw [hskip]; rfl)

namespace Rule

variable {r : Rule} {s : Sentence}

theorem start_of_mem_completionsAt (hr : opensAtOnce r.elements = true) {i : Nat} {p : Point}
    (h : p ∈ r.completionsAt s i) : (Match.ofPoint r s p).pattern.start = i := by
  have hi := Nat.le_of_lt (lt_size_of_mem_completionsAt h)
  obtain ⟨taken, htaken, helements, hassigned, -, -⟩ := Search.assignment_of_mem_completions r.features s h
  obtain rfl : p.taken = taken := htaken
  exact hassigned.start_covering (helements.symm ▸ hr) hi (covering_spans_of_mem_completionsAt h)

theorem resume_of_allowOverlap (hr : r.allowOverlap = true) (i : Nat) (m : Match) : r.resume i m = i + 1 := by
  rw [resume, hr, if_pos rfl]

theorem pairwise_fst_scanFrom (i : Nat) (last : Option Span) :
    (r.scanFrom s i last).Pairwise fun a b => a.1 < b.1 := by
  fun_induction scanFrom r s i last with
  | case1 _ _ _ _ ih => exact ih
  | case2 _ _ _ _ _ _ ih => exact ih
  | case3 i _ _ _ _ m _ _ ih =>
    refine List.pairwise_cons.mpr ⟨?_, ih⟩
    rintro ⟨j, m'⟩ hlater
    obtain ⟨hle, -⟩ := of_mem_scanFrom hlater
    have hresume := r.lt_resume i m
    show i < j
    omega
  | case4 => exact List.Pairwise.nil

/-- Neighbours cover different tokens, the match before the first one included. -/
theorem isChain_scanFrom (i : Nat) (last : Option Span) :
    (last.toList ++ (r.scanFrom s i last).map (·.2.pattern)).IsChain (· ≠ ·) := by
  fun_induction scanFrom r s i last with
  | case1 _ _ _ _ ih => exact ih
  | case2 _ _ _ _ _ _ ih => exact ih
  | case3 _ last _ _ _ m _ hlast ih =>
    cases last with
    | none => exact ih
    | some span => exact List.isChain_cons_cons.mpr ⟨fun hsame => hlast (congrArg some hsame), ih⟩
  | case4 _ last =>
    cases last with
    | none => exact List.IsChain.nil
    | some span => exact List.IsChain.singleton span

/-- What a search finds covers the same tokens as the last match reported up to there. -/
theorem exists_last_of_completion (hr : r.allowOverlap = true) {j : Nat} {q : Point}
    (hq : (r.completionsAt s j).head? = some q) {i : Nat} (hij : i ≤ j) (hj : j < s.size) (last : Option Span) :
    (last = some (Match.ofPoint r s q).pattern ∧ ∀ other ∈ r.scanFrom s i last, j < other.1) ∨
      ∃ found ∈ r.scanFrom s i last, found.1 ≤ j ∧ found.2.pattern = (Match.ofPoint r s q).pattern ∧
        ∀ other ∈ r.scanFrom s i last, other.1 ≤ j → other.1 ≤ found.1 := by
  fun_induction scanFrom r s i last with
  | case1 i last _ hnone ih =>
    have hne : i ≠ j := by
      rintro rfl
      rw [hnone] at hq
      cases hq
    exact ih (by omega)
  | case2 i hi p hp m _ ih =>
    have hresume := resume_of_allowOverlap hr i m
    rcases Nat.eq_or_lt_of_le hij with rfl | hlt
    · obtain rfl := Option.some_inj.mp (hp.symm.trans hq)
      refine Or.inl ⟨rfl, fun other hother => ?_⟩
      obtain ⟨hle, -⟩ := of_mem_scanFrom hother
      omega
    · exact ih (by omega)
  | case3 i last hi p hp m rest _ ih =>
    have hresume := resume_of_allowOverlap hr i m
    have hlater (other : Nat × Match) (hother : other ∈ rest) : i < other.1 := by
      obtain ⟨hle, -⟩ := of_mem_scanFrom hother
      omega
    rcases Nat.eq_or_lt_of_le hij with rfl | hlt
    · obtain rfl := Option.some_inj.mp (hp.symm.trans hq)
      exact Or.inr ⟨(i, m), List.mem_cons_self, Nat.le_refl i, rfl, fun other _ hle => hle⟩
    · rcases ih (by omega) with ⟨hsame, hothers⟩ | ⟨found, hfound, hle, hsame, hothers⟩
      · -- The match found here is the last one before the search, and nothing was reported in between.
        refine Or.inr ⟨(i, m), List.mem_cons_self, hij, Option.some_inj.mp hsame, fun other hother hle => ?_⟩
        rcases List.mem_cons.mp hother with rfl | hother
        · exact Nat.le_refl _
        · exact absurd (hothers other hother) (Nat.not_lt_of_le hle)
      · refine Or.inr ⟨found, List.mem_cons_of_mem _ hfound, hle, hsame, fun other hother hle' => ?_⟩
        rcases List.mem_cons.mp hother with rfl | hother
        · exact Nat.le_of_lt (hlater found hfound)
        · exact hothers other hother hle'
  | case4 => omega

/-- Matches, each with the token its search started at, in the order of the searches. What a search finds is left out
only if the last match reported before it covers the same tokens. A match that starts where its search did starts before
all later ones. -/
structure FindsInOrder (r : Rule) (s : Sentence) (found : List (Nat × Match)) : Prop where
  found_at : ∀ i m, (i, m) ∈ found → ∃ p steps, r.matchAt s none i 0 = .ok (some p, steps) ∧ m = Match.ofPoint r s p
  covers : ∀ i m, (i, m) ∈ found → i ≤ m.pattern.start ∧ m.pattern.start < m.pattern.stop ∧ m.pattern.stop ≤ s.size
  ordered : found.Pairwise fun a b => a.1 < b.1
  changing : (found.map (·.2.pattern)).IsChain (· ≠ ·)
  complete : ∀ i steps p steps', r.matchAt s none i steps = .ok (some p, steps') →
    ∃ last ∈ found, last.1 ≤ i ∧ last.2.pattern = (Match.ofPoint r s p).pattern ∧
      ∀ other ∈ found, other.1 ≤ i → other.1 ≤ last.1
  prompt : found.Pairwise fun a b => a.2.pattern.start = a.1 → a.2.pattern.start < b.2.pattern.start

theorem findsInOrder_scan (hr : r.allowOverlap = true) (s : Sentence) : r.FindsInOrder s (r.scan s) := by
  refine ⟨?_, ?_, pairwise_fst_scanFrom 0 none, isChain_scanFrom 0 none, ?_, ?_⟩
  · intro i m hm
    obtain ⟨-, -, p, hp, hown⟩ := of_mem_scanFrom hm
    obtain ⟨cost, hcost⟩ := r.matchAt_metered s i
    exact ⟨p, 0 + (1 + cost), by rw [hcost, hp, Search.metered_none], hown⟩
  · intro i m hm
    obtain ⟨hbetween, hlt⟩ := pattern_of_mem_scanFrom hm
    exact ⟨hbetween.low_le, hlt, hbetween.stop_le⟩
  · intro i steps p steps' hmatch
    have hhead := (matchAt_eq_ok hmatch).symm
    have hi := lt_size_of_mem_completionsAt (List.mem_of_mem_head? hhead)
    rcases exists_last_of_completion hr hhead (Nat.zero_le i) hi none with ⟨hnone, -⟩ | hfound
    · cases hnone
    · exact hfound
  · refine (pairwise_fst_scanFrom 0 none).imp_of_mem fun {a b} _ hb hlt hstart => ?_
    have hle := (pattern_of_mem_scanFrom hb).1.low_le
    omega

/-- The matches of a rule that may overlap come in the order of the searches that find them, and no two neighbours cover
the same tokens. If no gap stands in front of what the rule takes, each match starts behind the one before it, so none
comes twice. -/
theorem findMatches_with_overlap (hr : r.allowOverlap = true) (s : Sentence) :
    ∃ found, r.findMatches s none = .ok (found.map (·.2)) ∧
      (∀ limit ms, r.findMatches s limit = .ok ms → ms = found.map (·.2)) ∧ r.FindsInOrder s found ∧
      (opensAtOnce r.elements = true →
        (found.map (·.2)).Pairwise fun m m' => m.pattern.start < m'.pattern.start) := by
  have hfinds := findsInOrder_scan hr s
  refine ⟨r.scan s, r.findMatches_none s, fun limit ms h => eq_scan_of_findMatches h, hfinds, fun hopens => ?_⟩
  rw [List.pairwise_map]
  refine hfinds.prompt.imp_of_mem fun {a b} ha _ hlt => hlt ?_
  obtain ⟨-, -, p, hp, hown⟩ := of_mem_scanFrom ha
  rw [hown]
  exact start_of_mem_completionsAt hopens (List.mem_of_mem_head? hp)

/-- An element that may be left out, without a gap behind it. -/
def overlappingPairs : String :=
  "rule R \x7b pattern \x7b [\"d\", min=0] [\"a\"] [\"a\", skip=1] \x7d message \"m\"; overlap; \x7d"

theorem findMatches_overlappingPairs :
    ∃ (r : Rule) (s : Sentence) (found : List (Nat × Match)), r.IsCompiled ∧ r.allowOverlap = true ∧
      opensAtOnce r.elements = true ∧ r.findMatches s none = .ok (found.map (·.2)) ∧
      (found.map (·.2)).map (·.pattern) = [⟨0, 3⟩, ⟨1, 3⟩, ⟨2, 4⟩] ∧ r.FindsInOrder s found ∧
      (found.map (·.2)).Pairwise fun m m' => m.pattern.start < m'.pattern.start := by
  have hrun : ((RuleSet.load overlappingPairs).toOption.bind fun set => set.grammar.head?.bind fun r =>
      (r.findMatches (.ofTokens [.new "d" [], .new "a" [], .new "a" [], .new "a" []]) none).toOption.map fun ms =>
        (r.allowOverlap, opensAtOnce r.elements, ms.map (·.pattern))) =
      some (true, true, [⟨0, 3⟩, ⟨1, 3⟩, ⟨2, 4⟩]) := by decide +kernel
  obtain ⟨set, hload, hrun⟩ := Option.bind_eq_some_iff.mp hrun
  obtain ⟨r, hhead, hrun⟩ := Option.bind_eq_some_iff.mp hrun
  obtain ⟨ms, hms, hvalues⟩ := Option.map_eq_some_iff.mp hrun
  simp only [Prod.mk.injEq] at hvalues
  obtain ⟨hoverlap, hopens, hpatterns⟩ := hvalues
  rw [Success.toOption_eq_some] at hload hms
  have hr : r.IsCompiled := (RuleSet.isCompiled_of_load hload).1 r (List.mem_of_head? hhead)
  obtain ⟨found, hfound, hlimits, hfinds, hstarts⟩ := findMatches_with_overlap hoverlap
    (.ofTokens [.new "d" [], .new "a" [], .new "a" [], .new "a" []])
  obtain rfl := hlimits none ms hms
  exact ⟨r, _, found, hr, hoverlap, hopens, hfound, hpatterns, hfinds, hstarts hopens⟩

/-- An element that may be left out, with a gap behind it. -/
def overlappingGap : String :=
  "rule R \x7b pattern \x7b [\"a\", min=0, skip=2] [\"b\"] \x7d message \"m\"; overlap; \x7d"

/-- The search at the opening token finds the last token over the gap, the next one starts before that, and the last one
finds the same token again. -/
theorem findMatches_overlappingGap :
    ∃ (r : Rule) (s : Sentence) (ms : List Match), r.IsCompiled ∧ r.allowOverlap = true ∧
      r.findMatches s none = .ok ms ∧ ms.map (·.pattern) = [⟨2, 3⟩, ⟨1, 3⟩, ⟨2, 3⟩] ∧
      ¬(ms.map (·.pattern)).Pairwise (fun a b => a.start ≤ b.start) ∧ ¬(ms.map (·.pattern)).Nodup := by
  have hrun : ((RuleSet.load overlappingGap).toOption.bind fun set => set.grammar.head?.bind fun r =>
      (r.findMatches (.ofTagged [("a", "a", "X"), ("b", "b", "X")]) none).toOption.map fun ms =>
        (r.allowOverlap, ms.map (·.pattern))) = some (true, [⟨2, 3⟩, ⟨1, 3⟩, ⟨2, 3⟩]) := by decide +kernel
  obtain ⟨set, hload, hrun⟩ := Option.bind_eq_some_iff.mp hrun
  obtain ⟨r, hhead, hrun⟩ := Option.bind_eq_some_iff.mp hrun
  obtain ⟨ms, hms, hvalues⟩ := Option.map_eq_some_iff.mp hrun
  obtain ⟨hoverlap, hpatterns⟩ := Prod.mk.inj hvalues
  rw [Success.toOption_eq_some] at hload hms
  have hr : r.IsCompiled := (RuleSet.isCompiled_of_load hload).1 r (List.mem_of_head? hhead)
  refine ⟨r, _, ms, hr, hoverlap, hms, hpatterns, ?_, ?_⟩
  · rw [hpatterns]
    decide
  · rw [hpatterns]
    decide

end Rule

end GrammarCheck
