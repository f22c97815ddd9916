import GrammarCheck.Proofs.Search.Matching

/-! Order of preference. The points that follow a point stand in the order of the spans they give to the next element,
and so the completions of a point stand in the lexicographic order of their spans. -/

namespace GrammarCheck

namespace Point

/-- Two points that follow from the same point, the first one with the preferred span. -/
def PrefersLast (p : Point) (e : Element) (a b : Point) : Prop :=
  ∃ x y, a.taken = p.taken ++ [(e, x)] ∧ b.taken = p.taken ++ [(e, y)] ∧ x.Preferred y

theorem pairwise_countsDown (low high : Nat) : (countsDown low high).Pairwise (· > ·) := by
  rw [countsDown, List.pairwise_reverse]
  exact List.pairwise_lt_range'

theorem preferred_of_longer {i m n : Nat} (hn : 0 < n) (h : m > n) :
    (Span.mk i (i + m)).Preferred (Span.mk i (i + n)) := by
  refine ⟨?_, Or.inr (Or.inr ⟨rfl, ?_⟩)⟩
  · simp only [Span.isEmpty, decide_eq_false_iff_not]
    omega
  · exact Nat.add_lt_add_left h i

theorem taken_of_mem_takeFrom {p q : Point} {table : FeatureTable} {s : Sentence} {e : Element} {i : Nat}
    (h : q ∈ p.takeFrom table s e i) : ∃ n, 0 < n ∧ q.taken = p.taken ++ [(e, ⟨i, i + n⟩)] := by
  obtain ⟨n, ⟨hlow, -⟩, -, hq⟩ := (mem_takeFrom p q table s e i).mp h
  exact ⟨n, by omega, (settle?_frame hq).1⟩

theorem pairwise_takeFrom (p : Point) (table : FeatureTable) (s : Sentence) (e : Element) (i : Nat) :
    (p.takeFrom table s e i).Pairwise (p.PrefersLast e) := by
  have hpositive {low m n : Nat} (hlow : low = max e.min 1) (hn : low ≤ n) (h : m > n) :
      (Span.mk i (i + m)).Preferred (Span.mk i (i + n)) := preferred_of_longer (by omega) h
  unfold takeFrom
  simp only
  split
  · rw [List.pairwise_map]
    refine (pairwise_countsDown _ _).imp_of_mem fun {m n} _ hn hmn => ?_
    exact ⟨_, _, rfl, rfl, hpositive rfl ((mem_countsDown _ _ n).mp hn).1 hmn⟩
  · rw [List.pairwise_filterMap]
    refine (pairwise_countsDown _ _).imp_of_mem fun {m n} _ hn hmn a ha b hb => ?_
    obtain ⟨_, _, ha⟩ := Option.bind_eq_some_iff.mp ha
    obtain ⟨_, _, hb⟩ := Option.bind_eq_some_iff.mp hb
    exact ⟨_, _, (settle?_frame ha).1, (settle?_frame hb).1, hpositive rfl ((mem_countsDown _ _ n).mp hn).1 hmn⟩

theorem pairwise_starts (p : Point) (s : Sentence) : (p.starts s).Pairwise (· < ·) :=
  List.Pairwise.sublist (List.takeWhile_sublist _) List.pairwise_lt_range'

theorem pairwise_successors (p : Point) (table : FeatureTable) (s : Sentence) (e : Element) :
    (p.successors table s e).Pairwise (p.PrefersLast e) := by
  rw [successors, List.pairwise_append, List.pairwise_flatMap]
  refine ⟨⟨fun i _ => pairwise_takeFrom p table s e i, ?_⟩, ?_, ?_⟩
  · refine (pairwise_starts p s).imp fun {i j} hij a ha b hb => ?_
    obtain ⟨m, hm, ha⟩ := taken_of_mem_takeFrom ha
    obtain ⟨n, -, hb⟩ := taken_of_mem_takeFrom hb
    refine ⟨_, _, ha, hb, ?_, Or.inr (Or.inl hij)⟩
    simp only [Span.isEmpty, decide_eq_false_iff_not]
    omega
  · rw [leaveOut]
    split
    · cases (p.advance e (.empty p.cursor) (p.gap.add e.skip) ((guardOf e).or p.guard)).settle? e p.agreement with
      | none => exact List.Pairwise.nil
      | some q => exact List.pairwise_singleton _ q
    · exact List.Pairwise.nil
  · intro a ha b hb
    obtain ⟨i, -, ha⟩ := List.mem_flatMap.mp ha
    obtain ⟨n, hn, ha⟩ := taken_of_mem_takeFrom ha
    have hb := (settle?_frame ((mem_leaveOut p b table s e).mp hb).2).1
    refine ⟨_, _, ha, hb, ?_, Or.inl ?_⟩
    · simp only [Span.isEmpty, decide_eq_false_iff_not]
      omega
    · simp [Span.isEmpty, Span.empty]

end Point

namespace Search

variable (table : FeatureTable) (s : Sentence)

theorem preferredAssignment_of_prefersLast {p a b a' b' : Point} {e : Element} (h : p.PrefersLast e a b)
    (ha : ∃ rest, a'.taken = a.taken ++ rest) (hb : ∃ rest, b'.taken = b.taken ++ rest) :
    PreferredAssignment a'.taken b'.taken := by
  obtain ⟨x, y, hx, hy, hxy⟩ := h
  obtain ⟨as, ha⟩ := ha
  obtain ⟨bs, hb⟩ := hb
  rw [PreferredAssignment, ha, hb, hx, hy]
  simp only [List.map_append, List.map_cons, List.append_assoc, List.singleton_append]
  exact List.Lex.append_left _ (List.Lex.rel hxy) _

theorem pairwise_completions (elements : List Element) (p : Point) :
    (completions table s elements p).Pairwise fun a b => PreferredAssignment a.taken b.taken := by
  induction elements generalizing p with
  | nil =>
    rw [completions]
    split
    · exact List.pairwise_singleton _ p
    · exact List.Pairwise.nil
  | cons e rest ih =>
    rw [completions, List.pairwise_flatMap]
    refine ⟨fun q _ => ih q, (p.pairwise_successors table s e).imp fun {a b} hab a' ha b' hb => ?_⟩
    obtain ⟨as, has, -⟩ := assignment_of_mem_completions table s ha
    obtain ⟨bs, hbs, -⟩ := assignment_of_mem_completions table s hb
    exact preferredAssignment_of_prefersLast hab ⟨as, has⟩ ⟨bs, hbs⟩

end Search

end GrammarCheck
