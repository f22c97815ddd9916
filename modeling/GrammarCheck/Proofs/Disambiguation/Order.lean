import GrammarCheck.Proofs.Disambiguation.Failure
import GrammarCheck.Proofs.Search.Disjoint
import GrammarCheck.Proofs.Search.MarkerPlace

/-! The order in which a rule acts on its matches. They lie one behind the other, and an action looks at the tokens of its
match alone, so each order gives the same sentence. -/

namespace GrammarCheck

open Success

/-- Spans without a token in common. -/
def Span.Apart (a b : Span) : Prop := ∀ i ∈ a.indices, i ∉ b.indices

namespace Rule

variable {r : Rule} {s : Sentence}

/-- The tokens of the marker are tokens of the match. -/
theorem mem_pattern_of_mem_range {i : Nat} {p : Point} (h : p ∈ r.completionsAt s i) :
    ∀ j ∈ (Match.ofPoint r s p).range.indices, j ∈ (Match.ofPoint r s p).pattern.indices := by
  obtain ⟨taken, htaken, -, hassigned, -⟩ := Search.assignment_of_mem_completions r.features s h
  obtain rfl : p.taken = taken := htaken
  obtain ⟨front, back, hsplit, -, hrange⟩ := Match.exists_marked r s p
  have hpattern := covering_spans_of_mem_completionsAt h
  generalize r.markedIn p.taken = marked at hsplit hrange
  rw [Point.spans, hsplit] at hpattern
  rw [hsplit] at hassigned
  have hi : i ≤ s.size := Nat.le_of_lt (lt_size_of_mem_completionsAt h)
  obtain ⟨-, hstop, hstart⟩ := hassigned.place_of_markerRange hi hpattern hrange
  intro j hj
  rw [Span.mem_indices] at hj ⊢
  rcases hstart with hstart | ⟨hempty, -⟩
  · omega
  · rw [hempty] at hj
    exact absurd (Nat.lt_of_le_of_lt hj.1 hj.2) (Nat.lt_irrefl i)

/-- The markers of matches that may not overlap have no token in common. -/
theorem pairwise_apart_scan (hr : r.allowOverlap = false) (s : Sentence) :
    (r.scan s).Pairwise fun a b => a.2.range.Apart b.2.range := by
  refine (pairwise_scanFrom hr 0 none).imp_of_mem fun {a b} ha hb hbehind j hj hj' => ?_
  obtain ⟨-, -, p, hp, hown⟩ := of_mem_scanFrom ha
  obtain ⟨-, -, p', hp', hown'⟩ := of_mem_scanFrom hb
  rw [hown] at hj
  rw [hown'] at hj'
  have hfirst := Span.mem_indices.mp (mem_pattern_of_mem_range (List.mem_of_mem_head? hp) j hj)
  have hsecond := Span.mem_indices.mp (mem_pattern_of_mem_range (List.mem_of_mem_head? hp') j hj')
  rw [← hown] at hfirst
  rw [← hown'] at hsecond
  have hstart : b.1 ≤ b.2.pattern.start := (pattern_of_mem_scanFrom hb).1.low_le
  omega

end Rule

namespace Action

variable {a : Action}

/-- The actions on two matches may change places. -/
def Swaps (a : Action) (m m' : Match) : Prop :=
  ∀ s : Sentence, (s.editAll (a.edits m)).editAll (a.edits m') = (s.editAll (a.edits m')).editAll (a.edits m)

instance : Std.Symm a.Swaps where
  symm _ _ h s := (h s).symm

theorem swaps_of_apart {m m' : Match} (hm : a.Fits m) (hm' : a.Fits m') (h : m.range.Apart m'.range) :
    a.Swaps m m' := by
  refine fun s => Sentence.editAll_comm (fun e he e' he' hsame => ?_) s
  have hown := fst_mem_of_mem_edits hm' e' he'
  rw [← hsame] at hown
  exact h e.1 (fst_mem_of_mem_edits hm e he) hown

/-- Each order of matches that fit and have no marked token in common gives the same sentence. -/
theorem run_applyAll_perm {ms ms' : List Match} (hfits : ∀ m ∈ ms, a.Fits m)
    (hapart : ms.Pairwise fun m m' => m.range.Apart m'.range) (hperm : ms'.Perm ms) (s : Sentence) :
    (a.applyAll ms').run s = (a.applyAll ms).run s := by
  have hfits' : ∀ m ∈ ms', a.Fits m := fun m hm => hfits m (hperm.mem_iff.mp hm)
  have hswaps : ms.Pairwise a.Swaps :=
    hapart.imp_of_mem fun hm hm' h => swaps_of_apart (hfits _ hm) (hfits _ hm') h
  have hall : ∀ m ∈ ms, ∀ m' ∈ ms, a.Swaps m m' :=
    fun m hm m' hm' => hswaps.forall_of_forall (fun _ _ _ => rfl) hm hm'
  have hsame : ms.foldl (fun s m => s.editAll (a.edits m)) s = ms'.foldl (fun s m => s.editAll (a.edits m)) s := by
    apply hperm.symm.foldl_eq'
    exact hall
  rw [run_applyAll_of_fits hfits', run_applyAll_of_fits hfits, Sentence.editAll_flatMap, Sentence.editAll_flatMap,
    hsame]

end Action

namespace DisambiguationRule

variable {r : DisambiguationRule} {s s' : Sentence} {limit : Option Nat}

theorem allowOverlap_of_disambiguationRules {context : RuleContext} {d : DisambiguationDef}
    {rules : List DisambiguationRule} (h : Compile.disambiguationRules context d = .ok rules) (hr : r ∈ rules) :
    r.rule.allowOverlap = false := by
  obtain ⟨ps, -, hrules⟩ := bind_eq_ok.mp h
  obtain ⟨p, -, hone⟩ := exists_of_mem_of_mapM_eq_ok hrules hr
  obtain ⟨a, -, hone⟩ := bind_eq_ok.mp hone
  rw [← pure_eq_ok.mp hone]
  rfl

theorem run_eq_ok {count : Nat} (h : r.run s limit = (s', .ok count)) :
    ∃ ms, r.rule.findMatches s limit = .ok ms ∧ ms.length = count ∧ (r.action.applyAll ms).run s = .ok () s' := by
  cases hms : r.rule.findMatches s limit with
  | error e =>
    rw [run_of_error hms] at h
    cases h
  | ok ms =>
    refine ⟨ms, rfl, ?_⟩
    rw [run, hms] at h
    dsimp only at h
    generalize (r.action.applyAll ms).run s = outcome at h ⊢
    cases outcome with
    | ok _ _ =>
      cases h
      exact ⟨rfl, rfl⟩
    | error _ _ => cases h

/-- A rule that acts on all its matches may act on them in any order: the actions succeed and give the same sentence. -/
theorem matches_apply_in_any_order {context : RuleContext} {d : DisambiguationDef} {rules : List DisambiguationRule}
    (hrules : Compile.disambiguationRules context d = .ok rules) (hr : r ∈ rules) {count : Nat}
    (h : r.run s limit = (s', .ok count)) :
    ∃ ms, r.rule.findMatches s limit = .ok ms ∧ ms.length = count ∧
      ∀ ms', ms'.Perm ms → (r.action.applyAll ms').run s = .ok () s' := by
  obtain ⟨ms, hms, hlength, hrun⟩ := run_eq_ok h
  refine ⟨ms, hms, hlength, fun ms' hperm => ?_⟩
  have hapart : ms.Pairwise fun m m' => m.range.Apart m'.range := by
    rw [Rule.eq_scan_of_findMatches hms, List.pairwise_map]
    exact Rule.pairwise_apart_scan (allowOverlap_of_disambiguationRules hrules hr) s
  rw [Action.run_applyAll_perm (Action.forall_fits_of_run_applyAll_eq_ok hrun) hapart hperm, hrun]

/-- Takes a reading away from one or two tokens behind a word. -/
def verbsBehindArticle : String :=
  "disambig D \x7b pattern \x7b [\"a\"] marker \x7b [pos=\"NN\", max=2] \x7d \x7d action remove pos=\"VB\"; \x7d"

/-- Both matches are acted on, the last one first. -/
theorem matches_apply_in_any_order_reversed :
    ∃ (context : RuleContext) (d : DisambiguationDef) (rules : List DisambiguationRule) (r : DisambiguationRule)
      (s s' : Sentence) (ms : List Match), Compile.disambiguationRules context d = .ok rules ∧ r ∈ rules ∧
      r.run s none = (s', .ok 2) ∧ r.rule.findMatches s none = .ok ms ∧ ms.map (·.range) = [⟨1, 2⟩, ⟨3, 5⟩] ∧
      s'.tokens.map (·.readings.length) = [1, 1, 1, 1, 1] ∧ (r.action.applyAll ms.reverse).run s = .ok () s' := by
  let noun (text : String) : Token := .new text [.of text "NN", .of text "VB"]
  let s : Sentence := .ofTokens [.new "a" [], noun "walk", .new "a" [], noun "talk", noun "show"]
  have hrun : ((RuleFile.read verbsBehindArticle).toOption.bind fun file => (RuleContext.ofFile file).toOption.bind
      fun context => file.disambiguations.head?.bind fun d => (Compile.disambiguationRules context d).toOption.bind
        fun rules => rules.head?.bind fun r => (r.rule.findMatches s none).toOption.map fun ms =>
          (ms.map (·.range), (r.run s none).1.tokens.map (·.readings.length), (r.run s none).2)) =
      some ([⟨1, 2⟩, ⟨3, 5⟩], [1, 1, 1, 1, 1], .ok 2) := by decide +kernel
  obtain ⟨file, -, hrun⟩ := Option.bind_eq_some_iff.mp hrun
  obtain ⟨context, -, hrun⟩ := Option.bind_eq_some_iff.mp hrun
  obtain ⟨d, -, hrun⟩ := Option.bind_eq_some_iff.mp hrun
  obtain ⟨rules, hrules, hrun⟩ := Option.bind_eq_some_iff.mp hrun
  obtain ⟨r, hhead, hrun⟩ := Option.bind_eq_some_iff.mp hrun
  obtain ⟨ms, hms, hvalues⟩ := Option.map_eq_some_iff.mp hrun
  simp only [Prod.mk.injEq] at hvalues
  obtain ⟨hranges, hreadings, hcount⟩ := hvalues
  rw [toOption_eq_some] at hrules hms
  have hr : r ∈ rules := List.mem_of_head? hhead
  have hdone : r.run s none = ((r.run s none).1, .ok 2) := Prod.ext rfl hcount
  obtain ⟨ms', hms', -, hany⟩ := matches_apply_in_any_order hrules hr hdone
  obtain rfl : ms' = ms := Except.ok.inj (hms'.symm.trans hms)
  exact ⟨context, d, rules, r, s, _, ms', hrules, hr, hdone, hms, hranges, hreadings, hany _ ms'.reverse_perm⟩

end DisambiguationRule

end GrammarCheck
