import GrammarCheck.Proofs.Rule.Grouping
import GrammarCheck.Proofs.Search.Matches

/-! Matches of a rule that may not overlap. The scan goes on behind each match, so the next one lies behind it as well,
and what is passed over are only the searches that would start inside a match. -/

namespace GrammarCheck

/-- Tokens are taken behind the cursor alone, wherever it stands. -/
theorem Assigned.within {s : Sentence} {cursor : Nat} {gap : Bound} {guard : Option Element} {before taken : List Taken}
    (h : Assigned s cursor gap guard before taken) :
    ∀ t ∈ taken, t.2.isEmpty = false → cursor ≤ t.2.start ∧ t.2.stop ≤ s.size := by
  induction h with
  | done => exact List.forall_mem_nil _
  | consumed hspan _ ih =>
    have hlow := hspan.low
    have hcursor := hspan.cursor_le
    unfold Span.size at hlow
    refine List.forall_mem_cons.mpr ⟨fun _ => ⟨hcursor, hspan.stop_le⟩, fun t ht hne => ?_⟩
    obtain ⟨hstart, hstop⟩ := ih t ht hne
    exact ⟨by omega, hstop⟩
  | absent _ _ ih =>
    refine List.forall_mem_cons.mpr ⟨fun hne => ?_, ih⟩
    have hlt := Span.isEmpty_eq_false_iff.mp hne
    exact absurd hlt (Nat.lt_irrefl _)

namespace Rule

variable {r : Rule} {s : Sentence}

theorem lt_size_of_mem_completionsAt {i : Nat} {p : Point} (h : p ∈ r.completionsAt s i) : i < s.size := by
  obtain ⟨taken, htaken, -, hassigned, -, hne⟩ := Search.assignment_of_mem_completions r.features s h
  have hown : p.taken = taken := htaken
  obtain ⟨t, ht, hnonempty⟩ := (Search.isNonempty_iff p).mp hne
  obtain ⟨hstart, hstop⟩ := hassigned.within t (hown ▸ ht) hnonempty
  have hcursor : i ≤ t.2.start := hstart
  have hlt := Span.isEmpty_eq_false_iff.mp hnonempty
  omega

/-- A match covers tokens from where its search started up to the end of the sentence. -/
theorem pattern_of_mem_completionsAt {i : Nat} {p : Point} (h : p ∈ r.completionsAt s i) :
    (Match.ofPoint r s p).pattern.LiesBetween i s.size ∧ (Match.ofPoint r s p).pattern.isEmpty = false := by
  have hi := Nat.le_of_lt (lt_size_of_mem_completionsAt h)
  have hcovering := covering_spans_of_mem_completionsAt h
  exact ⟨covering_eq_some (spans_of_mem_completionsAt hi h) hcovering, isEmpty_of_covering_eq_some hcovering⟩

theorem pattern_of_mem_scanFrom {i : Nat} {last : Option Span} {j : Nat} {m : Match}
    (h : (j, m) ∈ r.scanFrom s i last) : m.pattern.LiesBetween j s.size ∧ m.pattern.start < m.pattern.stop := by
  obtain ⟨-, -, p, hp, rfl⟩ := of_mem_scanFrom h
  obtain ⟨hbetween, hne⟩ := pattern_of_mem_completionsAt (List.mem_of_mem_head? hp)
  exact ⟨hbetween, Span.isEmpty_eq_false_iff.mp hne⟩

theorem resume_of_not_allowOverlap (hr : r.allowOverlap = false) (i : Nat) (m : Match) :
    r.resume i m = max m.pattern.stop (i + 1) := by
  rw [resume, hr, if_neg Bool.false_ne_true]

theorem pairwise_scanFrom (hr : r.allowOverlap = false) (i : Nat) (last : Option Span) :
    (r.scanFrom s i last).Pairwise fun a b => a.2.pattern.stop ≤ b.1 := by
  fun_induction scanFrom r s i last with
  | case1 _ _ _ _ ih => exact ih
  | case2 _ _ _ _ _ _ ih => exact ih
  | case3 i _ _ _ _ m _ _ ih =>
    refine List.pairwise_cons.mpr ⟨?_, ih⟩
    rintro ⟨j, m'⟩ hlater
    obtain ⟨hle, -⟩ := of_mem_scanFrom hlater
    have hresume := resume_of_not_allowOverlap hr i m
    show m.pattern.stop ≤ j
    omega
  | case4 => exact List.Pairwise.nil

/-- A search that would find something starts where a match was found, or inside one. The match before lies behind the
scan, so it is not the same as the next one and nothing is left out. -/
theorem exists_mem_scanFrom (hr : r.allowOverlap = false) {j : Nat} {q : Point}
    (hq : (r.completionsAt s j).head? = some q) {i : Nat} {last : Option Span} (hij : i ≤ j) (hj : j < s.size)
    (hlast : ∀ span, last = some span → span.stop ≤ i) :
    ∃ found ∈ r.scanFrom s i last, j = found.1 ∨ found.1 < j ∧ j < found.2.pattern.stop := by
  fun_induction scanFrom r s i last with
  | case1 i last _ hnone ih =>
    have hne : i ≠ j := by
      rintro rfl
      rw [hnone] at hq
      cases hq
    exact ih (by omega) fun span hspan => Nat.le_succ_of_le (hlast span hspan)
  | case2 i hi p hp m _ _ =>
    -- The match would have to be the one before it, which ends where the scan is.
    obtain ⟨hbetween, hne⟩ := pattern_of_mem_completionsAt (List.mem_of_mem_head? hp)
    have hstart : i ≤ m.pattern.start := hbetween.low_le
    have hlt : m.pattern.start < m.pattern.stop := Span.isEmpty_eq_false_iff.mp hne
    have hstop := hlast m.pattern rfl
    omega
  | case3 i last hi p hp m rest _ ih =>
    have hresume := resume_of_not_allowOverlap hr i m
    rcases Nat.lt_or_ge j (r.resume i m) with hbefore | hbehind
    · refine ⟨(i, m), List.mem_cons_self, ?_⟩
      show j = i ∨ i < j ∧ j < m.pattern.stop
      omega
    · have hmono : ∀ span, some m.pattern = some span → span.stop ≤ r.resume i m := by
        intro span hspan
        rw [← Option.some_inj.mp hspan]
        omega
      obtain ⟨found, hfound, hplace⟩ := ih hbehind hmono
      exact ⟨found, List.mem_cons_of_mem _ hfound, hplace⟩
  | case4 => omega

/-- Matches, each with the token its search started at, that lie one behind the other. A search at any token finds
something only where one of them was found or inside it. -/
structure FindsApart (r : Rule) (s : Sentence) (found : List (Nat × Match)) : Prop where
  found_at : ∀ i m, (i, m) ∈ found → ∃ p steps, r.matchAt s none i 0 = .ok (some p, steps) ∧ m = Match.ofPoint r s p
  covers : ∀ i m, (i, m) ∈ found → i ≤ m.pattern.start ∧ m.pattern.start < m.pattern.stop ∧ m.pattern.stop ≤ s.size
  apart : found.Pairwise fun a b => a.2.pattern.stop ≤ b.1 ∧ a.2.pattern.stop ≤ b.2.pattern.start
  complete : ∀ i steps p steps', r.matchAt s none i steps = .ok (some p, steps') →
    ∃ j m, (j, m) ∈ found ∧ (i = j ∨ j < i ∧ i < m.pattern.stop)

theorem findMatches_without_overlap (hr : r.allowOverlap = false) (s : Sentence) :
    ∃ found, r.findMatches s none = .ok (found.map (·.2)) ∧ r.FindsApart s found := by
  refine ⟨r.scan s, r.findMatches_none s, ?_, ?_, ?_, ?_⟩
  · intro i m hm
    obtain ⟨-, -, p, hp, hown⟩ := of_mem_scanFrom hm
    obtain ⟨cost, hcost⟩ := r.matchAt_metered s i
    exact ⟨p, 0 + (1 + cost), by rw [hcost, hp, Search.metered_none], hown⟩
  · intro i m hm
    obtain ⟨hbetween, hlt⟩ := pattern_of_mem_scanFrom hm
    exact ⟨hbetween.low_le, hlt, hbetween.stop_le⟩
  · refine (pairwise_scanFrom hr 0 none).imp_of_mem fun {a b} _ hb hab => ⟨hab, ?_⟩
    exact Nat.le_trans hab (pattern_of_mem_scanFrom hb).1.low_le
  · intro i steps p steps' hmatch
    have hhead := (matchAt_eq_ok hmatch).symm
    have hi := lt_size_of_mem_completionsAt (List.mem_of_mem_head? hhead)
    have hnone : ∀ span, (none : Option Span) = some span → span.stop ≤ 0 := nofun
    obtain ⟨⟨j, m⟩, hm, hplace⟩ := exists_mem_scanFrom hr hhead (Nat.zero_le i) hi hnone
    exact ⟨j, m, hm, hplace⟩

/-- An element that may be left out, with a gap behind it. -/
def leadingGap : String :=
  "rule R \x7b pattern \x7b [\"o\", min=0, skip=1] [\"a\"] [\"b\", min=0] \x7d message \"m\"; \x7d"

/-- The first match is found one token before it starts, and the search at its first token would find it again. -/
theorem findMatches_leadingGap :
    ∃ (r : Rule) (s : Sentence) (found : List (Nat × Match)) (p : Point) (steps : Nat), r.IsCompiled ∧
      r.allowOverlap = false ∧ r.findMatches s none = .ok (found.map (·.2)) ∧
      found.map (·.2.pattern) = [⟨1, 3⟩, ⟨3, 4⟩] ∧ r.matchAt s none 1 0 = .ok (some p, steps) ∧
      r.FindsApart s found := by
  have hrun : ((RuleSet.load leadingGap).toOption.bind fun set => set.grammar.head?.bind fun r =>
      (r.findMatches (.ofTokens [.new "x" [], .new "a" [], .new "b" [], .new "a" []]) none).toOption.bind fun ms =>
        (r.matchAt (.ofTokens [.new "x" [], .new "a" [], .new "b" [], .new "a" []]) none 1 0).toOption.bind
          fun outcome => outcome.1.map fun _ => (r.allowOverlap, ms.map (·.pattern))) =
      some (false, [⟨1, 3⟩, ⟨3, 4⟩]) := by decide +kernel
  obtain ⟨set, hload, hrun⟩ := Option.bind_eq_some_iff.mp hrun
  obtain ⟨r, hhead, hrun⟩ := Option.bind_eq_some_iff.mp hrun
  obtain ⟨ms, hms, hrun⟩ := Option.bind_eq_some_iff.mp hrun
  obtain ⟨⟨answer, steps⟩, hmatch, hrun⟩ := Option.bind_eq_some_iff.mp hrun
  obtain ⟨p, hp, hrun⟩ := Option.map_eq_some_iff.mp hrun
  obtain ⟨hoverlap, hpatterns⟩ := Prod.mk.inj hrun
  obtain rfl : answer = some p := hp
  rw [Success.toOption_eq_some] at hload hms hmatch
  have hr : r.IsCompiled := (RuleSet.isCompiled_of_load hload).1 r (List.mem_of_head? hhead)
  obtain ⟨found, hfound, happly⟩ := findMatches_without_overlap hoverlap
    (.ofTokens [.new "x" [], .new "a" [], .new "b" [], .new "a" []])
  obtain rfl := Except.ok.inj (hms.symm.trans hfound)
  rw [List.map_map] at hpatterns
  exact ⟨r, _, found, p, steps, hr, hoverlap, hfound, hpatterns, hmatch, happly⟩

end Rule

end GrammarCheck
