import GrammarCheck.Check.Checker
import GrammarCheck.Proofs.Analysis.Places
import GrammarCheck.Proofs.Search.Matches
import GrammarCheck.Proofs.Success

/-! The bytes of reports. They lie in the sentence, between the start of its first token and the end of its last one,
unless a marker that took no token lies behind the last one. -/

namespace GrammarCheck

open Analysis Success

namespace Report

variable {text : String} {s : Sentence} {tokens : Span}

theorem byteSpan_of_isEmpty {t : Token} (hempty : tokens.isEmpty = true) (ht : s.token? tokens.start = some t) :
    byteSpan s tokens = .empty t.start := by
  unfold byteSpan
  rw [hempty, ht]
  rfl

theorem byteSpan_of_not_isEmpty {t t' : Token} (hempty : tokens.isEmpty = false)
    (ht : s.token? tokens.start = some t) (ht' : s.token? (tokens.stop - 1) = some t') :
    byteSpan s tokens = ⟨t.start, t'.stop⟩ := by
  unfold byteSpan
  rw [hempty, ht, if_neg Bool.false_ne_true, ht']
  rfl

/-- A report that starts at a token covers bytes of the sentence. -/
theorem byteSpan_of_lt (hs : StandIn text.toList (s.tokens.map (·.bytes))) (htokens : tokens.LiesBetween 0 s.size)
    (hstart : tokens.start < s.size) :
    String.Pos.Raw.IsValid text ⟨(byteSpan s tokens).start⟩ ∧ String.Pos.Raw.IsValid text ⟨(byteSpan s tokens).stop⟩ ∧
      ∃ first last, s.tokens.head? = some first ∧ s.tokens.getLast? = some last ∧
        first.start ≤ (byteSpan s tokens).start ∧ (byteSpan s tokens).start ≤ (byteSpan s tokens).stop ∧
        (byteSpan s tokens).stop ≤ last.stop := by
  have htoken (i : Nat) (hi : i < s.size) : ∃ t, s.token? i = some t := ⟨_, List.getElem?_eq_getElem hi⟩
  have hbytes {i : Nat} {t : Token} (ht : s.token? i = some t) : (s.tokens.map (·.bytes))[i]? = some t.bytes := by
    rw [List.getElem?_map]
    exact congrArg (Option.map _) ht
  have hvalid {i : Nat} {t : Token} (ht : s.token? i = some t) :
      String.Pos.Raw.IsValid text ⟨t.start⟩ ∧ String.Pos.Raw.IsValid text ⟨t.stop⟩ := by
    obtain ⟨hfrom, hto⟩ := hs.boundaries _ (List.mem_of_getElem? (hbytes ht))
    exact ⟨isBoundary_iff.mp hfrom, isBoundary_iff.mp hto⟩
  have hpos : 0 < s.size := Nat.lt_of_le_of_lt (Nat.zero_le _) hstart
  obtain ⟨first, hfirst⟩ := htoken 0 hpos
  obtain ⟨last, hlast⟩ := htoken (s.size - 1) (Nat.sub_one_lt_of_lt hpos)
  obtain ⟨t, ht⟩ := htoken tokens.start hstart
  have hhead : s.tokens.head? = some first := List.head?_eq_getElem?.trans hfirst
  have hgetLast : s.tokens.getLast? = some last := List.getLast?_eq_getElem?.trans hlast
  have hlow : first.start ≤ t.start := (hs.mono (Nat.zero_le _) (hbytes hfirst) (hbytes ht)).1
  -- An empty report is for the start of a token, any other for all from its first token to its last one.
  cases hempty : tokens.isEmpty with
  | true =>
    have hhigh : t.stop ≤ last.stop := (hs.mono (by omega) (hbytes ht) (hbytes hlast)).2
    rw [byteSpan_of_isEmpty hempty ht]
    exact ⟨(hvalid ht).1, (hvalid ht).1, first, last, hhead, hgetLast, hlow, Nat.le_refl _,
      Nat.le_trans (Nat.le_add_right _ _) hhigh⟩
  | false =>
    have hlt : tokens.start < tokens.stop := by
      rw [← Nat.not_le, ← Span.isEmpty_iff, hempty]
      exact Bool.false_ne_true
    have hstop : tokens.stop ≤ s.size := htokens.stop_le
    obtain ⟨t', ht'⟩ := htoken (tokens.stop - 1) (by omega)
    have hmiddle : t.stop ≤ t'.stop := (hs.mono (by omega) (hbytes ht) (hbytes ht')).2
    have hhigh : t'.stop ≤ last.stop := (hs.mono (by omega) (hbytes ht') (hbytes hlast)).2
    rw [byteSpan_of_not_isEmpty hempty ht ht']
    exact ⟨(hvalid ht).1, (hvalid ht').2, first, last, hhead, hgetLast, hlow,
      Nat.le_trans (Nat.le_add_right _ _) hmiddle, hhigh⟩

/-- There is no token behind the last one, so a report there is given the first byte of the text. -/
theorem byteSpan_of_ge (htokens : tokens.LiesBetween 0 s.size) (hstart : s.size ≤ tokens.start) :
    tokens = .empty s.size ∧ byteSpan s tokens = .empty 0 := by
  obtain ⟨start, stop⟩ := tokens
  have hle : start ≤ stop := htokens.start_le_stop
  have hstop : stop ≤ s.size := htokens.stop_le
  obtain rfl : start = s.size := Nat.le_antisymm (Nat.le_trans hle hstop) hstart
  obtain rfl : stop = s.size := Nat.le_antisymm hstop hle
  refine ⟨rfl, ?_⟩
  have hnone : s.token? s.size = none := List.getElem?_eq_none (Nat.le_refl _)
  have hempty : (Span.mk s.size s.size).isEmpty = true := Span.isEmpty_iff.mpr (Nat.le_refl _)
  unfold byteSpan
  rw [hempty, hnone]
  rfl

end Report

namespace Checker

theorem mem_of_mem_foldl_addNew {reports known : List Report} {report : Report}
    (h : report ∈ reports.foldl addNew known) : report ∈ known ∨ report ∈ reports := by
  induction reports generalizing known with
  | nil => exact Or.inl h
  | cons first rest ih =>
    rcases ih h with hknown | hrest
    · unfold addNew at hknown
      split at hknown
      · exact Or.inl hknown
      · rcases List.mem_append.mp hknown with hknown | hfirst
        · exact Or.inl hknown
        · exact Or.inr (List.mem_singleton.mp hfirst ▸ List.mem_cons_self)
    · exact Or.inr (List.mem_cons_of_mem _ hrest)

/-- Every report is that of a match, which covers no immunized token if such matches are left out. -/
theorem exists_spared_match_of_mem_checkSentence {c : Checker} {s : Sentence} {report : Report}
    (h : report ∈ c.checkSentence s) : ∃ r ∈ c.rules.grammar, ∃ ms m,
      r.findMatches s.withIndex c.options.limit = .ok ms ∧ m ∈ ms ∧ report = Report.ofMatch r s.withIndex m ∧
      (c.options.skipImmunized = true → isImmunized s m = false) := by
  rcases mem_of_mem_foldl_addNew h with hnone | hfound
  · exact absurd hnone List.not_mem_nil
  · obtain ⟨r, hr, hreport⟩ := List.mem_flatMap.mp hfound
    unfold reportsOf at hreport
    split at hreport
    · exact absurd hreport List.not_mem_nil
    · obtain ⟨m, hm, rfl⟩ := List.mem_map.mp hreport
      obtain ⟨hm, hspared⟩ := List.mem_filter.mp hm
      cases hms : r.findMatches s.withIndex c.options.limit with
      | error e =>
        rw [hms] at hm
        exact absurd hm List.not_mem_nil
      | ok ms =>
        rw [hms] at hm
        refine ⟨r, hr, ms, m, hms, hm, rfl, fun hskip => ?_⟩
        rw [hskip, Bool.true_and, Bool.not_eq_true'] at hspared
        exact hspared

theorem exists_match_of_mem_checkSentence {c : Checker} {s : Sentence} {report : Report}
    (h : report ∈ c.checkSentence s) : ∃ r ∈ c.rules.grammar, ∃ ms m,
      r.findMatches s.withIndex c.options.limit = .ok ms ∧ m ∈ ms ∧ report = Report.ofMatch r s.withIndex m := by
  obtain ⟨r, hr, ms, m, hms, hm, hreport, -⟩ := exists_spared_match_of_mem_checkSentence h
  exact ⟨r, hr, ms, m, hms, hm, hreport⟩

/-- What is reported in a sentence of a text lies in the sentence if it starts at one of its tokens. A marker behind the
last token is reported at the first byte of the text, wherever the sentence lies. -/
theorem bytes_of_mem_checkSentence {dictionary : Option Dictionary} {text : String} {s : Sentence}
    (hs : s ∈ Analysis.analyze dictionary text) {c : Checker} {report : Report} (h : report ∈ c.checkSentence s) :
    String.Pos.Raw.IsValid text ⟨report.bytes.start⟩ ∧ String.Pos.Raw.IsValid text ⟨report.bytes.stop⟩ ∧
      (report.tokens.start < s.size → ∃ first last, s.tokens.head? = some first ∧ s.tokens.getLast? = some last ∧
        first.start ≤ report.bytes.start ∧ report.bytes.start ≤ report.bytes.stop ∧ report.bytes.stop ≤ last.stop) ∧
      (s.size ≤ report.tokens.start → report.tokens = .empty s.size ∧ report.bytes = .empty 0) := by
  have hplaces := standIn_of_mem_analyze hs
  obtain ⟨r, -, ms, m, hms, hm, rfl⟩ := exists_match_of_mem_checkSentence h
  have htokens : m.range.LiesBetween 0 s.size := Rule.liesBetween_range_of_mem_findMatches hms hm
  rcases Nat.lt_or_ge m.range.start s.size with hlt | hge
  · obtain ⟨hstart, hstop, hwithin⟩ := Report.byteSpan_of_lt (s := s.withIndex) hplaces htokens hlt
    exact ⟨hstart, hstop, fun _ => hwithin, fun hge => absurd hlt (Nat.not_lt_of_le hge)⟩
  · obtain ⟨hempty, hbytes⟩ := Report.byteSpan_of_ge (s := s.withIndex) htokens hge
    have hzero : String.Pos.Raw.IsValid text ⟨0⟩ := isBoundary_iff.mp ⟨[], text.toList, rfl, rfl⟩
    have hown : (Report.ofMatch r s.withIndex m).bytes = .empty 0 := hbytes
    rw [hown]
    exact ⟨hzero, hzero, fun hlt => absurd hlt (Nat.not_lt_of_le hge), fun _ => ⟨hempty, rfl⟩⟩

/-- The marker has one element, which may be left out, between two that may not. -/
def middleMarker : String :=
  "rule R \x7b pattern \x7b [\"x\"] marker \x7b [\"y\", min=0] \x7d [\"z\"] \x7d message \"m\"; \x7d"

theorem bytes_middleMarker :
    ∃ set s report, RuleSet.load middleMarker = .ok set ∧ s ∈ Analysis.analyze none "A. x z" ∧
      report ∈ (new set {}).checkSentence s ∧ report.tokens = .empty 2 ∧ report.tokens.start < s.size ∧
      ∃ first last, s.tokens.head? = some first ∧ s.tokens.getLast? = some last ∧
        first.start ≤ report.bytes.start ∧ report.bytes.start ≤ report.bytes.stop ∧ report.bytes.stop ≤ last.stop := by
  have hrun : ((RuleSet.load middleMarker).toOption.bind fun set => (Analysis.analyze none "A. x z").getLast?.bind
      fun s => ((new set {}).checkSentence s).head?.map fun report => (report.tokens, s.size)) =
        some (.empty 2, 3) := by decide +kernel
  obtain ⟨set, hset, hrun⟩ := Option.bind_eq_some_iff.mp hrun
  obtain ⟨s, hs, hrun⟩ := Option.bind_eq_some_iff.mp hrun
  obtain ⟨report, hreport, hrun⟩ := Option.map_eq_some_iff.mp hrun
  obtain ⟨htokens, hsize⟩ := Prod.mk.inj hrun
  have hmem := List.mem_of_getLast? hs
  have hfound := List.mem_of_head? hreport
  have hlt : report.tokens.start < s.size := by
    rw [htokens, hsize]
    decide
  obtain ⟨-, -, hwithin, -⟩ := bytes_of_mem_checkSentence hmem hfound
  exact ⟨set, s, report, toOption_eq_some.mp hset, hmem, hfound, htokens, hlt, hwithin hlt⟩

/-- The marker has one element, which may be left out, behind all others. -/
def lateMarker : String :=
  "rule R \x7b pattern \x7b [\"x\"] marker \x7b [\"y\", min=0] \x7d \x7d message \"m\"; \x7d"

/-- The second sentence starts at the third byte, but the report in it is for the first byte of the text. -/
theorem bytes_lateMarker :
    ∃ set s report first, RuleSet.load lateMarker = .ok set ∧ s ∈ Analysis.analyze none "A. x" ∧
      report ∈ (new set {}).checkSentence s ∧ s.tokens.head? = some first ∧ report.bytes.start < first.start := by
  have hrun : ((RuleSet.load lateMarker).toOption.bind fun set => (Analysis.analyze none "A. x").getLast?.bind
      fun s => ((new set {}).checkSentence s).head?.bind fun report => s.tokens.head?.map fun first =>
        (report.bytes, first.start)) = some (.empty 0, 3) := by decide +kernel
  obtain ⟨set, hset, hrun⟩ := Option.bind_eq_some_iff.mp hrun
  obtain ⟨s, hs, hrun⟩ := Option.bind_eq_some_iff.mp hrun
  obtain ⟨report, hreport, hrun⟩ := Option.bind_eq_some_iff.mp hrun
  obtain ⟨first, hfirst, hrun⟩ := Option.map_eq_some_iff.mp hrun
  obtain ⟨hbytes, hstart⟩ := Prod.mk.inj hrun
  have hlt : report.bytes.start < first.start := by
    rw [hbytes, hstart]
    decide
  exact ⟨set, s, report, first, toOption_eq_some.mp hset, List.mem_of_getLast? hs, List.mem_of_head? hreport, hfirst,
    hlt⟩

end Checker

end GrammarCheck
