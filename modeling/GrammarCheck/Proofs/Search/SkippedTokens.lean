import GrammarCheck.Proofs.Resolution
import GrammarCheck.Proofs.Search.Shape

/-! The tokens that were passed over in a match. References that take them in show, position by position, spans that
follow each other without a hole, so that each token of the match is shown by one position. -/

namespace GrammarCheck

/-- Spans that are not empty follow each other from one index to another, without a hole. -/
def Span.Fill : Nat → List Span → Nat → Prop
  | low, [], high => low = high
  | low, span :: rest, high => span.start = low ∧ span.start < span.stop ∧ Fill span.stop rest high

namespace Span.Fill

variable {low high i : Nat} {spans : List Span}

theorem le (h : Fill low spans high) : low ≤ high := by
  induction spans generalizing low with
  | nil => exact Nat.le_of_eq h
  | cons span rest ih =>
    obtain ⟨rfl, hne, hrest⟩ := h
    exact (Nat.le_of_lt hne).trans (ih hrest)

theorem forall_start_ge (h : Fill low spans high) : ∀ span ∈ spans, low ≤ span.start := by
  induction spans generalizing low with
  | nil => exact List.forall_mem_nil _
  | cons span rest ih =>
    obtain ⟨rfl, hne, hrest⟩ := h
    have hlater := ih hrest
    exact List.forall_mem_cons.mpr ⟨Nat.le_refl _, fun other hother => (Nat.le_of_lt hne).trans (hlater other hother)⟩

theorem pairwise (h : Fill low spans high) : spans.Pairwise fun a b => a.stop ≤ b.start := by
  induction spans generalizing low with
  | nil => exact List.Pairwise.nil
  | cons span rest ih =>
    obtain ⟨-, -, hrest⟩ := h
    exact List.pairwise_cons.mpr ⟨hrest.forall_start_ge, ih hrest⟩

theorem exists_contains (h : Fill low spans high) (hlow : low ≤ i) (hhigh : i < high) :
    ∃ span ∈ spans, span.contains i = true := by
  induction spans generalizing low with
  | nil => exact absurd (Nat.lt_of_le_of_lt hlow hhigh) (h ▸ Nat.lt_irrefl low)
  | cons span rest ih =>
    obtain ⟨rfl, -, hrest⟩ := h
    rcases Nat.lt_or_ge i span.stop with hown | hlater
    · exact ⟨span, List.mem_cons_self, contains_iff.mpr ⟨hlow, hown⟩⟩
    · obtain ⟨other, hother, hcontains⟩ := ih hrest hlater
      exact ⟨other, List.mem_cons_of_mem _ hother, hcontains⟩

theorem flatMap_slice (h : Fill low spans high) (s : Sentence) : spans.flatMap s.slice = s.slice ⟨low, high⟩ := by
  induction spans generalizing low with
  | nil =>
    have hlow : low = high := h
    simp [Sentence.slice, Span.size, hlow]
  | cons span rest ih =>
    obtain ⟨rfl, hne, hrest⟩ := h
    have hle := hrest.le
    have hsize : high - span.start = (span.stop - span.start) + (high - span.stop) := by omega
    have hstop : span.start + (span.stop - span.start) = span.stop := by omega
    rw [List.flatMap_cons, ih hrest]
    simp only [Sentence.slice, Span.size]
    rw [hsize, List.take_add, List.drop_drop, hstop]

end Span.Fill

theorem Sentence.slice_succ_start (s : Sentence) (start stop : Nat) :
    s.slice ⟨start + 1, stop⟩ = (s.slice ⟨start, stop⟩).tail := by
  simp only [Sentence.slice, Span.size, ← List.drop_one, List.drop_take, List.drop_drop, Nat.sub_sub]

namespace Bindings

/-- The span that a reference to a position shows, if the position holds tokens. -/
def shown? (b : Bindings) (skipped : Skipped) (position : Nat) : Option Span :=
  (b.span? position).bind fun span =>
    if span.isEmpty then none else some (({ position, skipped } : Reference).shownSpan b span)

/-- What the positions show, in order, with the tokens that were passed over behind them. -/
def shownSpans (b : Bindings) : List Span :=
  (List.range b.positions.length).filterMap fun i => b.shown? .all (i + 1)

variable {s : Sentence} {span : Span} {rest : List Span}

theorem shown?_cons_succ (s : Sentence) (span : Span) (rest : List Span) (skipped : Skipped) (n : Nat) :
    (Bindings.mk s (span :: rest)).shown? skipped (n + 2) = (Bindings.mk s rest).shown? skipped (n + 1) := rfl

theorem shownSpans_cons (s : Sentence) (span : Span) (rest : List Span) : (Bindings.mk s (span :: rest)).shownSpans =
    ((Bindings.mk s (span :: rest)).shown? .all 1).toList ++ (Bindings.mk s rest).shownSpans := by
  unfold shownSpans
  rw [List.length_cons, List.range_succ_eq_map, List.filterMap_cons, List.filterMap_map]
  have hlater : ((fun i => (Bindings.mk s (span :: rest)).shown? .all (i + 1)) ∘ Nat.succ) =
      fun i => (Bindings.mk s rest).shown? .all (i + 1) := by
    funext i
    exact shown?_cons_succ s span rest .all i
  rw [hlater]
  cases (Bindings.mk s (span :: rest)).shown? .all 1 <;> rfl

theorem shownSpans_eq_nil (h : ∀ span ∈ rest, span.isEmpty = true) : (Bindings.mk s rest).shownSpans = [] := by
  induction rest with
  | nil => rfl
  | cons span rest ih =>
    obtain ⟨hspan, hrest⟩ := List.forall_mem_cons.mp h
    have hnone : (Bindings.mk s (span :: rest)).shown? .all 1 = none := if_pos hspan
    rw [shownSpans_cons, hnone, ih hrest]
    rfl

theorem covering_cons_of_behind {c : Span} (hbehind : ∀ other ∈ rest, span.stop ≤ other.start)
    (hspan : span.isEmpty = false) (hc : covering rest = some c) :
    span.stop ≤ c.start ∧ covering (span :: rest) = some ⟨span.start, c.stop⟩ := by
  have hlow : span.stop ≤ c.start := by
    have hall : ∀ other ∈ rest, other.isEmpty = false → span.stop ≤ other.start ∧ other.stop ≤ c.stop :=
      fun other hother hne => ⟨hbehind other hother, (le_of_covering_eq_some hc hother hne).2⟩
    exact (covering_le hc hall).1
  have hown := Span.isEmpty_eq_false_iff.mp hspan
  have hcover := Span.isEmpty_eq_false_iff.mp (isEmpty_of_covering_eq_some hc)
  have hstart : min span.start c.start = span.start := Nat.min_eq_left (by omega)
  have hstop : max span.stop c.stop = c.stop := Nat.max_eq_right (by omega)
  refine ⟨hlow, ?_⟩
  rw [covering_cons_of_not_isEmpty hspan, hc, Option.map_some, Option.getD_some, Span.union, hstart, hstop]

/-- The cover of spans that lie one behind the other starts with the first of them that is not empty. -/
theorem exists_find?_of_covering (h : rest.Pairwise fun a b => a.stop ≤ b.start) {c : Span}
    (hc : covering rest = some c) : ∃ next, rest.find? (!·.isEmpty) = some next ∧ next.start = c.start := by
  induction rest with
  | nil => cases hc
  | cons span rest ih =>
    obtain ⟨hbehind, hrest⟩ := List.pairwise_cons.mp h
    cases hspan : span.isEmpty with
    | true =>
      rw [covering_cons_of_isEmpty hspan] at hc
      obtain ⟨next, hnext, hstart⟩ := ih hrest hc
      exact ⟨next, by simp [hspan, hnext], hstart⟩
    | false =>
      refine ⟨span, by simp [hspan], ?_⟩
      cases hcovering : covering rest with
      | none =>
        rw [covering_cons_of_not_isEmpty hspan, hcovering, Option.some_inj] at hc
        exact congrArg Span.start hc
      | some c' =>
        rw [(covering_cons_of_behind hbehind hspan hcovering).2, Option.some_inj] at hc
        subst hc
        rfl

/-- A position shows the tokens up to the next one that holds any; the last one shows its own. -/
theorem fill_shownSpans {positions : List Span} (h : positions.Pairwise fun a b => a.stop ≤ b.start) {c : Span}
    (hc : covering positions = some c) : Span.Fill c.start (Bindings.mk s positions).shownSpans c.stop := by
  induction positions generalizing c with
  | nil => cases hc
  | cons span rest ih =>
    obtain ⟨hbehind, hrest⟩ := List.pairwise_cons.mp h
    rw [shownSpans_cons]
    cases hspan : span.isEmpty with
    | true =>
      have hnone : (Bindings.mk s (span :: rest)).shown? .all 1 = none := if_pos hspan
      rw [covering_cons_of_isEmpty hspan] at hc
      rw [hnone]
      exact ih hrest hc
    | false =>
      have hown := Span.isEmpty_eq_false_iff.mp hspan
      have hshown : (Bindings.mk s (span :: rest)).shown? .all 1 =
          some ⟨span.start, (Bindings.mk s (span :: rest)).followingStop 1⟩ :=
        if_neg (ne_true_of_eq_false hspan)
      rw [hshown]
      cases hcovering : covering rest with
      | none =>
        have hempty := covering_eq_none_iff.mp hcovering
        have hfind : rest.find? (!·.isEmpty) = none :=
          List.find?_eq_none.mpr fun other hother => by simp [hempty other hother]
        have hstop : (Bindings.mk s (span :: rest)).followingStop 1 = span.stop := by
          simp [followingStop, span?, hfind]
        rw [covering_cons_of_not_isEmpty hspan, hcovering, Option.some_inj] at hc
        subst hc
        rw [shownSpans_eq_nil hempty, hstop]
        exact ⟨rfl, hown, rfl⟩
      | some c' =>
        obtain ⟨next, hfind, hnext⟩ := exists_find?_of_covering hrest hcovering
        obtain ⟨hlow, hcover⟩ := covering_cons_of_behind hbehind hspan hcovering
        have hstop : (Bindings.mk s (span :: rest)).followingStop 1 = c'.start := by
          simp [followingStop, span?, hfind, hnext, hlow]
        rw [hcover, Option.some_inj] at hc
        subst hc
        rw [hstop]
        exact ⟨rfl, Nat.lt_of_lt_of_le hown hlow, ih hrest hcovering⟩

theorem exists_index_of_shown? {b : Bindings} {skipped : Skipped} {n : Nat} {span : Span}
    (h : b.shown? skipped n = some span) : ∃ i < b.positions.length, n = i + 1 := by
  obtain ⟨own, hown, -⟩ := Option.bind_eq_some_iff.mp h
  cases n with
  | zero => cases hown
  | succ i => exact ⟨i, (List.getElem?_eq_some_iff.mp hown).1, rfl⟩

theorem mem_shownSpans {b : Bindings} {span : Span} : span ∈ b.shownSpans ↔ ∃ n, b.shown? .all n = some span := by
  simp only [shownSpans, List.mem_filterMap, List.mem_range]
  constructor
  · rintro ⟨i, -, hshown⟩
    exact ⟨i + 1, hshown⟩
  · rintro ⟨n, hshown⟩
    obtain ⟨i, hi, rfl⟩ := exists_index_of_shown? hshown
    exact ⟨i, hi, hshown⟩

theorem shown?_disjoint {b : Bindings} (h : b.shownSpans.Pairwise fun a b => a.stop ≤ b.start) {n n' : Nat}
    {span span' : Span} (hn : b.shown? .all n = some span) (hn' : b.shown? .all n' = some span') (hlt : n < n') :
    span.stop ≤ span'.start := by
  obtain ⟨i, hi, rfl⟩ := exists_index_of_shown? hn
  obtain ⟨i', hi', rfl⟩ := exists_index_of_shown? hn'
  have hrange := List.pairwise_iff_getElem.mp (List.pairwise_filterMap.mp h) i i' (by simpa using hi)
    (by simpa using hi') (Nat.lt_of_succ_lt_succ hlt)
  simp only [List.getElem_range] at hrange
  exact hrange span hn span' hn'

/-- No two positions show the same token. -/
theorem eq_of_shown?_contains {b : Bindings} (h : b.shownSpans.Pairwise fun a b => a.stop ≤ b.start) {n n' i : Nat}
    {span span' : Span} (hn : b.shown? .all n = some span) (hn' : b.shown? .all n' = some span')
    (hi : span.contains i = true) (hi' : span'.contains i = true) : n = n' := by
  rw [Span.contains_iff] at hi hi'
  rcases Nat.lt_trichotomy n n' with hlt | heq | hlt
  · have hbehind := shown?_disjoint h hn hn' hlt
    omega
  · exact heq
  · have hbehind := shown?_disjoint h hn' hn hlt
    omega

theorem shown?_following (b : Bindings) (n : Nat) :
    b.shown? .following n = (b.shown? .all n).map fun span => ⟨span.start + 1, span.stop⟩ := by
  unfold shown?
  cases b.span? n with
  | none => rfl
  | some span =>
    simp only [Option.bind_some]
    split <;> rfl

end Bindings

/-- A reference shows the text of its span, if it changes nothing about it. -/
structure Reference.ShowsText (r : Reference) : Prop where
  showTag : r.showTag = false
  hideMisspelled : r.hideMisspelled = false
  replacement : r.replacement = none
  conversion : r.conversion = .keep

theorem Reference.ShowsText.resolve? {r : Reference} (hr : r.ShowsText) {b : Bindings} (hb : b.Fits)
    (hskipped : r.skipped ≠ .none) {span : Span} (hspan : b.shown? r.skipped r.position = some span) :
    r.resolve? b = some (b.joinedText span) := by
  obtain ⟨own, hown, hshown⟩ := Option.bind_eq_some_iff.mp hspan
  obtain ⟨i, -, hi⟩ := Bindings.exists_index_of_shown? hspan
  have hmem : own ∈ b.positions := by
    rw [hi] at hown
    exact List.mem_of_getElem? hown
  rw [Option.ite_none_left_eq_some] at hshown
  obtain ⟨hne, hshown⟩ := hshown
  obtain ⟨t, ht⟩ := hb.exists_token hmem (eq_false_of_ne_true hne)
  have hspanEq : r.shownSpan b own = span := Option.some_inj.mp hshown
  have hsurface : r.surface b own t = b.joinedText span := by
    rw [← hspanEq]
    unfold surface
    rw [hr.replacement]
    cases hkind : r.skipped with
    | none => exact absurd hkind hskipped
    | following => rfl
    | all => rfl
  have hkeep (text : String) : r.conversion.apply text = text := by
    rw [hr.conversion]
    rfl
  simp [Reference.resolve?, hown, hne, ht, hr.hideMisspelled, hr.showTag, hkeep, hsurface]

/-- The references that take in skipped tokens share the tokens of a match among them. -/
structure Match.IsTiled (s : Sentence) (m : Match) : Prop where
  fill : Span.Fill m.pattern.start (Bindings.mk s m.positions).shownSpans m.pattern.stop
  slices : (Bindings.mk s m.positions).shownSpans.flatMap s.slice = s.slice m.pattern
  unique : ∀ i, m.pattern.contains i = true →
    ∃! n, ∃ span, (Bindings.mk s m.positions).shown? .all n = some span ∧ span.contains i = true
  /-- Without its first token, a position shows what follows it. -/
  following : ∀ n span, (Bindings.mk s m.positions).shown? .all n = some span →
    (Bindings.mk s m.positions).shown? .following n = some ⟨span.start + 1, span.stop⟩ ∧
      s.slice ⟨span.start + 1, span.stop⟩ = (s.slice span).tail
  texts : ∀ r : Reference, r.ShowsText → r.skipped ≠ .none → ∀ span,
    (Bindings.mk s m.positions).shown? r.skipped r.position = some span →
      r.resolve? ⟨s, m.positions⟩ = some (String.ofList (Sentence.joinTokens false (s.slice span)))

namespace Rule

/-- All matches of a rule that a file is compiled to are tiled by what their positions show. -/
theorem findMatches_tiled {source : String} {file : RuleFile} {context : RuleContext} {d : PatternDef} {r : Rule}
    (hread : RuleFile.read source = .ok file) (hcontext : RuleContext.ofFile file = .ok context)
    (hr : ComesFrom file context d r) {s : Sentence} {limit : Option Nat} {ms : List Match}
    (h : r.findMatches s limit = .ok ms) {m : Match} (hm : m ∈ ms) : m.IsTiled s := by
  have hwell := hr.isWellFormed_compiledPattern hread hcontext
  obtain ⟨i, p, steps, hi, hp, -, rfl, helements, hassigned⟩ := exists_assigned_of_mem_findMatches h hm
  have hbetween := hassigned.liesBetween (Nat.le_of_lt hi)
  have hordered := hassigned.pairwise (Nat.le_of_lt hi)
  have htaken (n : Nat) : (∃ t ∈ p.taken, t.1.position = n) ↔ n < r.positionCount := hwell.exists_taken_iff helements
  have hpositions : (Match.ofPoint r s p).positions.Pairwise fun a b => a.stop ≤ b.start :=
    pairwise_boundSpans hordered (hwell.pairwise_taken helements) hbetween fun n hn => (htaken n).mpr hn
  have hhull := Match.isHull_positions (r := r) (s := s) hordered (fun t ht => (htaken _).mp ⟨t, ht, rfl⟩)
    (covering_spans_of_mem_completionsAt hp)
  have hfits : (Bindings.mk s (Match.ofPoint r s p).positions).Fits :=
    start_lt_of_mem_boundSpans hordered hbetween _
  have hfill := Bindings.fill_shownSpans (s := s) hpositions (covering_eq_some_of_isHull hhull)
  constructor
  case fill => exact hfill
  case slices => exact hfill.flatMap_slice s
  case unique =>
    intro j hj
    obtain ⟨hlow, hhigh⟩ := Span.contains_iff.mp hj
    obtain ⟨span, hspan, hcontains⟩ := hfill.exists_contains hlow hhigh
    obtain ⟨n, hn⟩ := Bindings.mem_shownSpans.mp hspan
    refine ⟨n, ⟨span, hn, hcontains⟩, ?_⟩
    rintro n' ⟨span', hn', hcontains'⟩
    exact Bindings.eq_of_shown?_contains hfill.pairwise hn' hn hcontains' hcontains
  case following =>
    intro n span hn
    rw [Bindings.shown?_following, hn]
    exact ⟨rfl, s.slice_succ_start span.start span.stop⟩
  case texts => exact fun ref href hskipped span hspan => href.resolve? hfits hskipped hspan

/-- Tokens may be passed over in a phrase, before it and behind it. -/
def phraseAmongGaps : String :=
  "phrase p \x7b [pos=\"X\", skip=1] [pos=\"Y\", skip=1] \x7d rule r \x7b pattern \x7b [\"a\", skip=1] @p " ++
    "[\"z\", min=0] [\"b\"] \x7d message \"m\"; \x7d"

/-- The position that took no token shows none, and the others show the gaps behind them. -/
theorem findMatches_phraseAmongGaps :
    ∃ file context d r s ms m, RuleFile.read phraseAmongGaps = .ok file ∧ RuleContext.ofFile file = .ok context ∧
      ComesFrom file context d r ∧ r.findMatches s none = .ok ms ∧ m ∈ ms ∧ m.pattern = ⟨0, 7⟩ ∧
      m.positions = [⟨0, 1⟩, ⟨2, 5⟩, .empty 5, ⟨6, 7⟩] ∧
      (Bindings.mk s m.positions).shownSpans = [⟨0, 2⟩, ⟨2, 6⟩, ⟨6, 7⟩] ∧ m.IsTiled s := by
  have hrun : ofFirstMatch? (fun _ m => (m.pattern, m.positions)) phraseAmongGaps
      (.ofTokens [.new "a" [], .new "u" [], .new "x" [.of "x" "X"], .new "v" [], .new "y" [.of "y" "Y"], .new "w" [],
        .new "b" []]) = some (⟨0, 7⟩, [⟨0, 1⟩, ⟨2, 5⟩, .empty 5, ⟨6, 7⟩]) := by decide +kernel
  obtain ⟨file, context, d, r, ms, m, hread, hcontext, hcomes, hms, hm, hrun⟩ := exists_of_ofFirstMatch? hrun
  obtain ⟨hpattern, hpositions⟩ := Prod.mk.inj hrun
  refine ⟨file, context, d, r, _, ms, m, hread, hcontext, hcomes, hms, hm, hpattern, hpositions, ?_,
    findMatches_tiled hread hcontext hcomes hms hm⟩
  rw [hpositions]
  decide

end Rule

end GrammarCheck
