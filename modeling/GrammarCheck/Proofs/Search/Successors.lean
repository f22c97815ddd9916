import GrammarCheck.Proofs.Search.Assignment

/-! One step of the search. The points that follow a point are those in which the next element has taken what it may
take, or is left out, and in which its group of agreement can still be met; they stand in order of preference. -/

namespace GrammarCheck

theorem Bound.le_clamp_iff (b : Bound) (n limit : Nat) : n ≤ b.clamp limit ↔ b.admits n = true ∧ n ≤ limit := by
  cases b with
  | upTo max => simp only [clamp, admits, decide_eq_true_eq, Nat.le_min]
  | unbounded => simp [clamp, admits]

theorem Span.size_mk_add (i n : Nat) : (Span.mk i (i + n)).size = n := Nat.add_sub_cancel_left i n

theorem Span.size_empty (n : Nat) : (Span.empty n).size = 0 := Nat.sub_self n

theorem Sentence.length_slice {s : Sentence} {i n : Nat} (h : n ≤ s.size - i) :
    (s.slice ⟨i, i + n⟩).length = n := by
  unfold Sentence.size at h
  rw [slice, Span.size_mk_add, List.length_take, List.length_drop]
  exact Nat.min_eq_left h

theorem Sentence.take_slice (s : Sentence) (i : Nat) {n run : Nat} (h : n ≤ run) :
    (s.slice ⟨i, i + run⟩).take n = s.slice ⟨i, i + n⟩ := by
  rw [slice, slice, Span.size_mk_add, Span.size_mk_add, List.take_take, Nat.min_eq_left h]

namespace Point

theorem le_runLength_iff (holds : Nat → Bool) (i limit n : Nat) :
    n ≤ runLength holds i limit ↔ n ≤ limit ∧ ∀ j, i ≤ j → j < i + n → holds j = true := by
  induction limit generalizing i n with
  | zero =>
    constructor
    · intro h
      exact ⟨h, fun j hij hj => by simp only [runLength] at h; omega⟩
    · exact fun h => h.1
  | succ limit ih =>
    rw [runLength]
    cases n with
    | zero => exact ⟨fun _ => ⟨Nat.zero_le _, fun j hij hj => by omega⟩, fun _ => Nat.zero_le _⟩
    | succ n =>
      split
      · rename_i hi
        rw [Nat.succ_le_succ_iff, ih, Nat.succ_le_succ_iff]
        refine and_congr_right fun _ => ⟨fun h j hij hj => ?_, fun h j hij hj => h j (by omega) (by omega)⟩
        rcases Nat.eq_or_lt_of_le hij with rfl | hlt
        · exact hi
        · exact h j hlt (by omega)
      · rename_i hi
        exact ⟨fun h => by omega, fun h => absurd (h.2 i (Nat.le_refl i) (by omega)) hi⟩

theorem mem_takeWhile_range' (f : Nat → Bool) (first n i : Nat) :
    i ∈ (List.range' first n).takeWhile f ↔
      (first ≤ i ∧ i < first + n) ∧ ∀ j, first ≤ j → j ≤ i → f j = true := by
  induction n generalizing first with
  | zero =>
    rw [List.range'_zero, List.takeWhile_nil]
    exact ⟨fun h => absurd h List.not_mem_nil, fun h => by omega⟩
  | succ n ih =>
    rw [List.range'_succ, List.takeWhile_cons]
    split
    · rename_i hf
      rw [List.mem_cons, ih]
      constructor
      · rintro (rfl | ⟨hrange, hall⟩)
        · exact ⟨by omega, fun j hj hji => by rwa [Nat.le_antisymm hji hj]⟩
        · refine ⟨by omega, fun j hj hji => ?_⟩
          rcases Nat.eq_or_lt_of_le hj with rfl | hlt
          · exact hf
          · exact hall j hlt hji
      · rintro ⟨hrange, hall⟩
        rcases Nat.eq_or_lt_of_le hrange.1 with rfl | hlt
        · exact Or.inl rfl
        · exact Or.inr ⟨by omega, fun j hj hji => hall j (by omega) hji⟩
    · rename_i hf
      refine ⟨fun h => absurd h List.not_mem_nil, fun h => absurd (h.2 first (Nat.le_refl first) h.1.1) hf⟩

theorem mem_starts (p : Point) (s : Sentence) (i : Nat) :
    i ∈ p.starts s ↔ p.cursor ≤ i ∧ p.gap.admits (i - p.cursor) = true ∧ i < s.size ∧
      ∀ g, p.guard = some g → ∀ j, p.cursor ≤ j → j ≤ i → g.nextExceptionAt s j none = false := by
  have hguard : (∀ j, p.cursor ≤ j → j ≤ i → (!p.guard.any (·.nextExceptionAt s j none)) = true) ↔
      ∀ g, p.guard = some g → ∀ j, p.cursor ≤ j → j ≤ i → g.nextExceptionAt s j none = false := by
    cases p.guard with
    | none => simp
    | some g => simp
  simp only [starts, Span.indices, Span.size, mem_takeWhile_range', hguard]
  cases p.gap with
  | upTo n =>
    simp only [Bound.admits, decide_eq_true_eq, ← and_assoc]
    refine and_congr_left fun _ => ?_
    omega
  | unbounded =>
    simp only [Bound.admits, true_and, ← and_assoc]
    refine and_congr_left fun _ => ?_
    omega

theorem mem_countsDown (low high n : Nat) : n ∈ countsDown low high ↔ low ≤ n ∧ n ≤ high := by
  rw [countsDown, List.mem_reverse, List.mem_range'_1]
  omega

theorem getElem?_agreements (table : FeatureTable) (slot : AgreementSlot) (tokens : List Token) (a b : Agreement)
    (n : Nat) :
    (agreements a table slot tokens)[n]? = some b ↔
      n < tokens.length ∧ a.addAll table slot.features (tokens.take (n + 1)) = b ∧
        (slot.negate = false → ∀ m, m ≤ n →
          (a.addAll table slot.features (tokens.take (m + 1))).agrees = true) := by
  induction tokens generalizing a n with
  | nil => simp [agreements]
  | cons t rest ih =>
    have hstep (m : Nat) : a.addAll table slot.features ((t :: rest).take (m + 1)) =
        (a.add table slot.features t).addAll table slot.features (rest.take m) := rfl
    simp only [agreements, hstep]
    split
    · rename_i hstop
      simp only [Bool.and_eq_true, Bool.not_eq_true'] at hstop
      refine ⟨fun h => by simp at h, fun h => ?_⟩
      have hagrees := h.2.2 hstop.2 0 (Nat.zero_le n)
      rw [List.take_zero, Agreement.addAll_nil, hstop.1] at hagrees
      exact absurd hagrees Bool.false_ne_true
    · rename_i hgo
      have hfirst : slot.negate = false → (a.add table slot.features t).agrees = true := by
        intro hplain
        simpa [hplain] using hgo
      cases n with
      | zero =>
        simp only [List.getElem?_cons_zero, Option.some_inj, List.take_zero, Agreement.addAll_nil]
        refine ⟨fun h => ⟨Nat.succ_pos _, h, fun hplain m hm => ?_⟩, fun h => h.2.1⟩
        rw [Nat.le_zero.mp hm, List.take_zero, Agreement.addAll_nil]
        exact hfirst hplain
      | succ n =>
        rw [List.getElem?_cons_succ, ih, List.length_cons, Nat.succ_lt_succ_iff]
        refine and_congr_right fun _ => and_congr_right fun _ => forall_congr' fun hplain => ?_
        constructor
        · intro h m hm
          cases m with
          | zero => exact hfirst hplain
          | succ m => exact h m (by omega)
        · exact fun h m hm => h (m + 1) (by omega)

/-- The agreement of an element's group after the tokens of a span. -/
def agreementAfter (table : FeatureTable) (s : Sentence) (e : Element) (span : Span) (a : Agreement) : Agreement :=
  match e.agreement with
  | none => a
  | some slot => a.addAll table slot.features (s.slice span)

/-- A group that has to agree does so after each token of a span. -/
def KeepsAgreeing (table : FeatureTable) (s : Sentence) (e : Element) (span : Span) (a : Agreement) : Prop :=
  ∀ slot, e.agreement = some slot → slot.negate = false → ∀ n, n < span.size →
    (a.addAll table slot.features ((s.slice span).take (n + 1))).agrees = true

/-- The run of an element at a token reaches as far as the tokens meet its conditions. -/
theorem le_run_iff (p : Point) (s : Sentence) (e : Element) (i n : Nat) (hn : 0 < n) :
    n ≤ runLength (fun j => e.matchesAt s j (p.bindings? s e)) i (e.max.clamp (s.size - i)) ↔
      e.max.admits n = true ∧ i + n ≤ s.size ∧
        ∀ j, i ≤ j → j < i + n → e.matchesAt s j (some ⟨s, boundSpans p.taken e.position⟩) = true := by
  have hsize : n ≤ s.size - i ↔ i + n ≤ s.size := by omega
  simp only [le_runLength_iff, Bound.le_clamp_iff, Element.matchesAt_bindings?, hsize, and_assoc]

theorem mem_takeFrom (p q : Point) (table : FeatureTable) (s : Sentence) (e : Element) (i : Nat) :
    q ∈ p.takeFrom table s e i ↔ ∃ n, (max e.min 1 ≤ n ∧ e.max.admits n = true ∧ i + n ≤ s.size ∧
      ∀ j, i ≤ j → j < i + n → e.matchesAt s j (some ⟨s, boundSpans p.taken e.position⟩) = true) ∧
      KeepsAgreeing table s e ⟨i, i + n⟩ p.agreement ∧
      (p.advance e ⟨i, i + n⟩ e.skip (guardOf e)).settle? e
        (agreementAfter table s e ⟨i, i + n⟩ p.agreement) = some q := by
  cases hslot : e.agreement with
  | none =>
    simp only [takeFrom, hslot, List.mem_map, mem_countsDown, settle?, Option.some_inj]
    refine exists_congr fun n => ?_
    constructor
    · rintro ⟨⟨hlow, hrun⟩, hq⟩
      exact ⟨⟨hlow, (le_run_iff p s e i n (by omega)).mp hrun⟩, by simp [KeepsAgreeing, hslot], hq⟩
    · rintro ⟨⟨hlow, hmet⟩, -, hq⟩
      exact ⟨⟨hlow, (le_run_iff p s e i n (by omega)).mpr hmet⟩, hq⟩
  | some slot =>
    simp only [takeFrom, hslot, List.mem_filterMap, mem_countsDown, Option.bind_eq_some_iff]
    have hrunle := ((le_runLength_iff _ _ _ _).mp (Nat.le_refl
      (runLength (fun j => e.matchesAt s j (p.bindings? s e)) i (e.max.clamp (s.size - i))))).1
    have hlength := Sentence.length_slice (i := i) (Nat.le_trans hrunle (Bound.clamp_le _ _))
    refine exists_congr fun n => ?_
    constructor
    · rintro ⟨⟨hlow, -⟩, b, hb, hq⟩
      obtain ⟨hlt, rfl, hkeeps⟩ := (getElem?_agreements table slot _ _ b (n - 1)).mp hb
      have hn : n - 1 + 1 = n := by omega
      rw [hlength] at hlt
      rw [hn, Sentence.take_slice s i (by omega)] at hq
      refine ⟨⟨hlow, (le_run_iff p s e i n (by omega)).mp (by omega)⟩, ?_, ?_⟩
      · intro slot' hslot' hplain m hm
        rw [hslot, Option.some_inj] at hslot'
        subst hslot'
        rw [Span.size_mk_add] at hm
        have hstep := hkeeps hplain m (by omega)
        rwa [Sentence.take_slice s i (by omega)] at hstep ⊢
      · rwa [agreementAfter, hslot]
    · rintro ⟨⟨hlow, hmet⟩, hkeeps, hq⟩
      have hn : n - 1 + 1 = n := by omega
      have hrun := (le_run_iff p s e i n (by omega)).mpr hmet
      have hb := (getElem?_agreements table slot _ p.agreement _ (n - 1)).mpr
        ⟨by rw [hlength]; omega, rfl, fun hplain m hm => by
          have hstep := hkeeps slot hslot hplain m (by rw [Span.size_mk_add]; omega)
          rwa [Sentence.take_slice s i (by omega)] at hstep ⊢⟩
      have hlt := (List.getElem?_eq_some_iff.mp hb).1
      rw [hn, Sentence.take_slice s i hrun] at hb
      refine ⟨⟨hlow, by omega⟩, _, hb, ?_⟩
      rwa [agreementAfter, hslot] at hq

theorem mem_leaveOut (p q : Point) (table : FeatureTable) (s : Sentence) (e : Element) :
    q ∈ p.leaveOut e ↔ e.min = 0 ∧
      (p.advance e (.empty p.cursor) (p.gap.add e.skip) ((guardOf e).or p.guard)).settle? e
        (agreementAfter table s e (.empty p.cursor) p.agreement) = some q := by
  have hafter : agreementAfter table s e (.empty p.cursor) p.agreement = p.agreement := by
    unfold agreementAfter
    split
    · rfl
    · rw [Sentence.slice, Span.size_empty, List.take_zero, Agreement.addAll_nil]
  rw [hafter, leaveOut]
  split
  · rename_i hmin
    rw [Option.mem_toList]
    exact ⟨fun h => ⟨hmin, h⟩, fun h => h.2⟩
  · rename_i hmin
    exact ⟨fun h => absurd h List.not_mem_nil, fun h => absurd h.1 hmin⟩

/-- The agreement with which the search goes on after an element: a group that ends with it is done. -/
def nextAgreement (e : Element) (a : Agreement) : Agreement :=
  match e.agreement with
  | none => a
  | some slot => if slot.last then .start else a

/-- A group that ends with an element is met. -/
def Passes (e : Element) (a : Agreement) : Prop :=
  ∀ slot, e.agreement = some slot → slot.last = true → a.satisfies slot.negate = true

/-- A point follows from another one by the span that the next element takes. -/
structure Follows (table : FeatureTable) (s : Sentence) (p : Point) (e : Element) (span : Span) (q : Point) :
    Prop where
  taken : q.taken = p.taken ++ [(e, span)]
  cursor : q.cursor = span.stop
  agreement : q.agreement = nextAgreement e (agreementAfter table s e span p.agreement)
  keeps : KeepsAgreeing table s e span p.agreement
  passes : Passes e (agreementAfter table s e span p.agreement)
  kind : (Consumes s p.cursor p.gap p.guard p.taken e span ∧ q.gap = e.skip ∧ q.guard = guardOf e) ∨
    (e.min = 0 ∧ span = .empty p.cursor ∧ q.gap = p.gap.add e.skip ∧ q.guard = (guardOf e).or p.guard)

theorem agreementAfter_of_agreement_eq_none {e : Element} (h : e.agreement = none) (table : FeatureTable)
    (s : Sentence) (span : Span) (a : Agreement) : agreementAfter table s e span a = a := by
  rw [agreementAfter, h]

/-- Agreement does not touch the rest of a point. -/
theorem settle?_frame {p q : Point} {e : Element} {a : Agreement} (h : p.settle? e a = some q) :
    q.taken = p.taken ∧ q.cursor = p.cursor ∧ q.gap = p.gap ∧ q.guard = p.guard := by
  unfold settle? at h
  split at h
  · rw [← Option.some.inj h]
    exact ⟨rfl, rfl, rfl, rfl⟩
  · split at h
    · rw [← Option.some.inj h]
      exact ⟨rfl, rfl, rfl, rfl⟩
    · split at h
      · rw [← Option.some.inj h]
        exact ⟨rfl, rfl, rfl, rfl⟩
      · exact nomatch h

theorem settle?_eq_some {p q : Point} {e : Element} {a : Agreement} (h : p.settle? e a = some q)
    (ha : e.agreement = none → a = p.agreement) : Passes e a ∧ q.agreement = nextAgreement e a := by
  unfold settle? at h
  unfold Passes nextAgreement
  cases hslot : e.agreement with
  | none =>
    rw [hslot, Option.some_inj] at h
    subst h
    exact ⟨by simp, (ha hslot).symm⟩
  | some slot =>
    simp only [hslot] at h
    cases hlast : slot.last with
    | false =>
      rw [if_pos (by rw [hlast]; rfl), Option.some_inj] at h
      subst h
      exact ⟨by simp [hlast], by simp [hlast]⟩
    | true =>
      rw [if_neg (by simp [hlast])] at h
      split at h
      · rename_i hverdict
        rw [Option.some_inj] at h
        subst h
        exact ⟨by simpa using fun _ => hverdict, by simp [hlast]⟩
      · exact nomatch h

theorem exists_settle?_eq_some {p : Point} {e : Element} {a : Agreement} (h : Passes e a) :
    ∃ q, p.settle? e a = some q := by
  unfold settle?
  cases hslot : e.agreement with
  | none => exact ⟨p, rfl⟩
  | some slot =>
    cases hlast : slot.last with
    | false => exact ⟨{ p with agreement := a }, by simp [hlast]⟩
    | true =>
      exact ⟨{ p with agreement := .start, unified := p.unified + a.tokens },
        by simp [hlast, h slot hslot hlast]⟩

theorem follows_of_settle? {table : FeatureTable} {s : Sentence} {p q : Point} {e : Element} {span : Span}
    {gap : Bound} {guard : Option Element} (hkeeps : KeepsAgreeing table s e span p.agreement)
    (h : (p.advance e span gap guard).settle? e (agreementAfter table s e span p.agreement) = some q)
    (hkind : (Consumes s p.cursor p.gap p.guard p.taken e span ∧ gap = e.skip ∧ guard = guardOf e) ∨
      (e.min = 0 ∧ span = .empty p.cursor ∧ gap = p.gap.add e.skip ∧ guard = (guardOf e).or p.guard)) :
    Follows table s p e span q := by
  obtain ⟨hpasses, hagreement⟩ := settle?_eq_some h
    fun hnone => agreementAfter_of_agreement_eq_none hnone table s span p.agreement
  obtain ⟨htaken, hcursor, hgap, hguard⟩ := settle?_frame h
  refine ⟨htaken, hcursor, hagreement, hkeeps, hpasses, ?_⟩
  rw [hgap, hguard]
  exact hkind

theorem keepsAgreeing_empty (table : FeatureTable) (s : Sentence) (e : Element) (n : Nat) (a : Agreement) :
    KeepsAgreeing table s e (.empty n) a := by
  intro slot _ _ m hm
  rw [Span.size_empty] at hm
  exact absurd hm (Nat.not_lt_zero m)

theorem consumes_iff (s : Sentence) (p : Point) (e : Element) (i n : Nat) (hn : max e.min 1 ≤ n) :
    Consumes s p.cursor p.gap p.guard p.taken e ⟨i, i + n⟩ ↔ i ∈ p.starts s ∧ e.max.admits n = true ∧
      i + n ≤ s.size ∧
      ∀ j, i ≤ j → j < i + n → e.matchesAt s j (some ⟨s, boundSpans p.taken e.position⟩) = true := by
  rw [mem_starts]
  constructor
  · rintro ⟨hcursor, hgap, hstop, hlow, hhigh, hmet, hguard⟩
    rw [Span.size_mk_add] at hhigh
    have hlt : i + n ≤ s.size := hstop
    exact ⟨⟨hcursor, hgap, by omega, hguard⟩, hhigh, hstop,
      fun j hij hj => hmet j (Span.mem_indices.mpr ⟨hij, hj⟩)⟩
  · rintro ⟨⟨hcursor, hgap, -, hguard⟩, hhigh, hstop, hmet⟩
    refine ⟨hcursor, hgap, hstop, by rwa [Span.size_mk_add], by rwa [Span.size_mk_add], ?_, hguard⟩
    exact fun j hj => hmet j (Span.mem_indices.mp hj).1 (Span.mem_indices.mp hj).2

theorem follows_of_mem_successors {table : FeatureTable} {s : Sentence} {p q : Point} {e : Element}
    (h : q ∈ p.successors table s e) : ∃ span, Follows table s p e span q := by
  rw [successors, List.mem_append, List.mem_flatMap] at h
  rcases h with ⟨i, hi, hq⟩ | hq
  · obtain ⟨n, ⟨hlow, hmet⟩, hkeeps, hq⟩ := (mem_takeFrom p q table s e i).mp hq
    have hconsumes := (consumes_iff s p e i n hlow).mpr ⟨hi, hmet⟩
    exact ⟨⟨i, i + n⟩, follows_of_settle? hkeeps hq (Or.inl ⟨hconsumes, rfl, rfl⟩)⟩
  · obtain ⟨hmin, hq⟩ := (mem_leaveOut p q table s e).mp hq
    exact ⟨.empty p.cursor, follows_of_settle? (keepsAgreeing_empty table s e p.cursor p.agreement) hq
      (Or.inr ⟨hmin, rfl, rfl, rfl⟩)⟩

theorem exists_successor_of_consumes {table : FeatureTable} {s : Sentence} {p : Point} {e : Element} {span : Span}
    (h : Consumes s p.cursor p.gap p.guard p.taken e span) (hkeeps : KeepsAgreeing table s e span p.agreement)
    (hpasses : Passes e (agreementAfter table s e span p.agreement)) :
    ∃ q ∈ p.successors table s e, Follows table s p e span q ∧ q.gap = e.skip ∧ q.guard = guardOf e := by
  obtain ⟨q, hq⟩ := exists_settle?_eq_some (p := p.advance e span e.skip (guardOf e)) hpasses
  have hfollows := follows_of_settle? hkeeps hq (Or.inl ⟨h, rfl, rfl⟩)
  obtain ⟨-, -, hgap, hguard⟩ := settle?_frame hq
  refine ⟨q, ?_, hfollows, hgap, hguard⟩
  have hlow := h.low
  obtain ⟨i, stop⟩ := span
  obtain ⟨n, rfl⟩ : ∃ n, stop = i + n := ⟨stop - i, by simp only [Span.size] at hlow; omega⟩
  rw [Span.size_mk_add] at hlow
  obtain ⟨hi, hmet⟩ := (consumes_iff s p e i n hlow).mp h
  rw [successors, List.mem_append, List.mem_flatMap]
  exact Or.inl ⟨i, hi, (mem_takeFrom p q table s e i).mpr ⟨n, ⟨hlow, hmet⟩, hkeeps, hq⟩⟩

theorem exists_successor_of_absent {table : FeatureTable} {s : Sentence} {p : Point} {e : Element}
    (hmin : e.min = 0) (hpasses : Passes e (agreementAfter table s e (.empty p.cursor) p.agreement)) :
    ∃ q ∈ p.successors table s e, Follows table s p e (.empty p.cursor) q ∧ q.gap = p.gap.add e.skip ∧
      q.guard = (guardOf e).or p.guard := by
  obtain ⟨q, hq⟩ := exists_settle?_eq_some
    (p := p.advance e (.empty p.cursor) (p.gap.add e.skip) ((guardOf e).or p.guard)) hpasses
  have hkeeps := keepsAgreeing_empty table s e p.cursor p.agreement
  obtain ⟨-, -, hgap, hguard⟩ := settle?_frame hq
  refine ⟨q, ?_, follows_of_settle? hkeeps hq (Or.inr ⟨hmin, rfl, rfl, rfl⟩), hgap, hguard⟩
  rw [successors, List.mem_append]
  exact Or.inr ((mem_leaveOut p q table s e).mpr ⟨hmin, hq⟩)

end Point

end GrammarCheck
