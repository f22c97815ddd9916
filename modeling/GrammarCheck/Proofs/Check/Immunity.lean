import GrammarCheck.Proofs.Check.Bytes
import GrammarCheck.Proofs.Disambiguation.Kept

/-! Immunized tokens. What is reported in a sentence leaves out the bytes of all tokens that disambiguation immunized, in
the sentence and in the others. Rules on the whole text are not held to that. -/

namespace GrammarCheck

open Analysis Success

theorem Token.RevisedTo.bytes {t t' : Token} (h : t.RevisedTo t') : t'.bytes = t.bytes := by
  rw [Token.bytes, Token.stop, h.text, h.start]
  rfl

/-- Every token stays where it is. -/
theorem bytes_disambiguate (rules : List DisambiguationRule) (limit : Option Nat) (s : Sentence) :
    (disambiguate rules limit s).tokens.map (·.bytes) = s.tokens.map (·.bytes) := by
  have hrevised := revisedTo_disambiguate rules limit s
  generalize s.tokens = tokens, (disambiguate rules limit s).tokens = tokens' at hrevised
  induction hrevised with
  | nil => rfl
  | cons hfirst _ ih => rw [List.map_cons, List.map_cons, hfirst.bytes, ih]

theorem Sentence.mem_slice {s : Sentence} {span : Span} {k : Nat} {t : Token} (ht : s.token? k = some t)
    (hk : span.contains k = true) : t ∈ s.slice span := by
  rw [Span.contains_iff] at hk
  refine List.mem_of_getElem? (i := k - span.start) ?_
  rw [slice, List.getElem?_take_of_lt (by unfold Span.size; omega), List.getElem?_drop, Nat.add_sub_of_le hk.1]
  exact ht

namespace Report

variable {s : Sentence} {tokens : Span} {b : Nat}

/-- A report that covers a byte starts at a token and ends with a token around it. -/
theorem of_contains_byteSpan (htokens : tokens.LiesBetween 0 s.size) (hb : (byteSpan s tokens).contains b = true) :
    tokens.start < tokens.stop ∧ ∃ first last, s.token? tokens.start = some first ∧
      s.token? (tokens.stop - 1) = some last ∧ first.start ≤ b ∧ b < last.stop := by
  cases hempty : tokens.isEmpty with
  | true =>
    have hsame : (byteSpan s tokens).stop = (byteSpan s tokens).start := by
      unfold byteSpan
      rw [hempty]
      rfl
    rw [Span.contains_iff, hsame] at hb
    exact absurd hb.2 (Nat.not_lt_of_le hb.1)
  | false =>
    have hlt := Span.isEmpty_eq_false_iff.mp hempty
    have hstop := htokens.stop_le
    have htoken (i : Nat) (hi : i < s.size) : ∃ t, s.token? i = some t := ⟨_, List.getElem?_eq_getElem hi⟩
    obtain ⟨first, hfirst⟩ := htoken tokens.start (by omega)
    obtain ⟨last, hlast⟩ := htoken (tokens.stop - 1) (by omega)
    rw [byteSpan_of_not_isEmpty hempty hfirst hlast, Span.contains_iff] at hb
    exact ⟨hlt, first, last, hfirst, hlast, hb.1, hb.2⟩

/-- A report covers no byte of a token that it leaves out. -/
theorem not_contains_bytes {text : List Char} (hs : StandIn text (s.tokens.map (·.bytes)))
    (htokens : tokens.LiesBetween 0 s.size) (hb : (byteSpan s tokens).contains b = true) {k : Nat} {t : Token}
    (ht : s.token? k = some t) (hk : tokens.contains k = false) : t.bytes.contains b = false := by
  obtain ⟨hlt, first, last, hfirst, hlast, hlow, hhigh⟩ := of_contains_byteSpan htokens hb
  have hordered {i j : Nat} {t t' : Token} (hij : i < j) (ht : s.token? i = some t) (ht' : s.token? j = some t') :
      t.stop ≤ t'.start := by
    obtain ⟨hi, rfl⟩ := List.getElem?_eq_some_iff.mp ht
    obtain ⟨hj, rfl⟩ := List.getElem?_eq_some_iff.mp ht'
    exact List.pairwise_iff_getElem.mp (List.pairwise_map.mp hs.ordered) i j hi hj hij
  rw [← Bool.not_eq_true, Span.contains_iff] at hk ⊢
  rintro ⟨hstart, hstop⟩
  have hstart : t.start ≤ b := hstart
  have hstop : b < t.stop := hstop
  -- The token stands before the first one of the report or behind the last one.
  rcases Nat.lt_or_ge k tokens.start with hbefore | hbehind
  · have hle := hordered hbefore ht hfirst
    omega
  · have hle := hordered (show tokens.stop - 1 < k by omega) hlast ht
    omega

end Report

namespace Checker

theorem spares_own_sentence {c : Checker} (hskip : c.options.skipImmunized = true) {text : List Char} {s : Sentence}
    (hs : StandIn text (s.tokens.map (·.bytes))) {report : Report} (h : report ∈ c.checkSentence s) {t : Token}
    (ht : t ∈ s.tokens) (himmunized : t.immunized = true) {b : Nat} (hb : report.bytes.contains b = true) :
    t.bytes.contains b = false := by
  obtain ⟨r, -, ms, m, hms, hm, rfl, hspared⟩ := exists_spared_match_of_mem_checkSentence h
  have htokens : m.range.LiesBetween 0 s.size := Rule.liesBetween_range_of_mem_findMatches hms hm
  obtain ⟨k, hk⟩ := List.getElem?_of_mem ht
  have houtside : m.range.contains k = false := by
    rw [← Bool.not_eq_true]
    intro hinside
    have hnone := List.any_eq_false.mp (hspared hskip) t (Sentence.mem_slice hk hinside)
    exact hnone himmunized
  exact Report.not_contains_bytes (s := s.withIndex) hs htokens hb hk houtside

/-- The bytes of a report lie between tokens of its sentence. -/
theorem exists_tokens_around {c : Checker} {s : Sentence} {report : Report} (h : report ∈ c.checkSentence s) {b : Nat}
    (hb : report.bytes.contains b = true) :
    ∃ first ∈ s.tokens, ∃ last ∈ s.tokens, first.start ≤ b ∧ b < last.stop := by
  obtain ⟨r, -, ms, m, hms, hm, rfl⟩ := exists_match_of_mem_checkSentence h
  have htokens : m.range.LiesBetween 0 s.size := Rule.liesBetween_range_of_mem_findMatches hms hm
  obtain ⟨-, first, last, hfirst, hlast, hlow, hhigh⟩ := Report.of_contains_byteSpan (s := s.withIndex) htokens hb
  exact ⟨first, List.mem_of_getElem? hfirst, last, List.mem_of_getElem? hlast, hlow, hhigh⟩

/-- The sentences of a text as rules see them, after disambiguation. -/
def sentences (c : Checker) (dictionary : Option Dictionary) (text : String) : List Sentence :=
  (analyze dictionary text).map c.disambiguate

theorem standIn_of_mem_sentences {c : Checker} {dictionary : Option Dictionary} {text : String} {s : Sentence}
    (h : s ∈ c.sentences dictionary text) : StandIn text.toList (s.tokens.map (·.bytes)) := by
  obtain ⟨s', hs', rfl⟩ := List.mem_map.mp h
  rw [show (c.disambiguate s').tokens.map (·.bytes) = s'.tokens.map (·.bytes) from bytes_disambiguate _ _ _]
  exact standIn_of_mem_analyze hs'

theorem pairwise_sentences (c : Checker) (dictionary : Option Dictionary) (text : String) :
    (c.sentences dictionary text).Pairwise fun s s' => ∀ t ∈ s.tokens, ∀ t' ∈ s'.tokens, t.stop ≤ t'.start := by
  have hsame {s : Sentence} {t : Token} (ht : t ∈ (c.disambiguate s).tokens) : ∃ t' ∈ s.tokens, t'.bytes = t.bytes := by
    refine List.mem_map.mp ?_
    rw [← show (c.disambiguate s).tokens.map (·.bytes) = s.tokens.map (·.bytes) from bytes_disambiguate _ _ _]
    exact List.mem_map_of_mem ht
  refine List.pairwise_map.mpr ((pairwise_analyze dictionary text).imp fun hss' t ht t' ht' => ?_)
  obtain ⟨u, hu, hbytes⟩ := hsame ht
  obtain ⟨u', hu', hbytes'⟩ := hsame ht'
  have hle : u.bytes.stop ≤ u'.bytes.start := hss' u hu u' hu'
  rw [hbytes, hbytes'] at hle
  exact hle

/-- The reports of a text are those in its sentences, and all that the rules on the whole text give. -/
theorem mem_checkText {c : Checker} {dictionary : Option Dictionary} {text : String} {report : Report} :
    report ∈ c.checkText dictionary text ↔ (∃ s ∈ c.sentences dictionary text, report ∈ c.checkSentence s) ∨
      ∃ rule ∈ c.textRules, report ∈ rule (c.sentences dictionary text) := by
  unfold checkText checkTextWith
  rw [List.mem_mergeSort, List.mem_append, List.mem_flatMap, List.mem_flatMap]
  rfl

/-- With immunized tokens left out, what is reported in a sentence covers no byte of one anywhere in the text. The rules
on the whole text are not asked for that: their reports are added as they are. -/
theorem checkText_spares_immunized {c : Checker} (hskip : c.options.skipImmunized = true)
    (dictionary : Option Dictionary) (text : String) :
    (∀ report, report ∈ c.checkText dictionary text ↔
      (∃ s ∈ c.sentences dictionary text, report ∈ c.checkSentence s) ∨
        ∃ rule ∈ c.textRules, report ∈ rule (c.sentences dictionary text)) ∧
      ∀ own ∈ c.sentences dictionary text, ∀ report ∈ c.checkSentence own, ∀ s ∈ c.sentences dictionary text,
        ∀ t ∈ s.tokens, t.immunized = true → ∀ b, report.bytes.contains b = true → t.bytes.contains b = false := by
  refine ⟨fun _ => mem_checkText, fun own hown report hreport s hs t ht himmunized b hb => ?_⟩
  obtain ⟨first, hfirst, last, hlast, hlow, hhigh⟩ := exists_tokens_around hreport hb
  have hpairwise := List.pairwise_iff_getElem.mp (c.pairwise_sentences dictionary text)
  obtain ⟨i, hi, rfl⟩ := List.getElem_of_mem hs
  obtain ⟨j, hj, rfl⟩ := List.getElem_of_mem hown
  -- A token of another sentence lies before all tokens of the report's own one or behind all of them.
  have houtside (hplace : t.stop ≤ first.start ∨ last.stop ≤ t.start) : t.bytes.contains b = false := by
    rw [← Bool.not_eq_true, Span.contains, Bool.and_eq_true, decide_eq_true_eq, decide_eq_true_eq]
    rintro ⟨hstart, hstop⟩
    have hstart : t.start ≤ b := hstart
    have hstop : b < t.stop := hstop
    omega
  rcases Nat.lt_trichotomy i j with hlt | rfl | hgt
  · exact houtside (Or.inl (hpairwise i j hi hj hlt t ht first hfirst))
  · exact spares_own_sentence hskip (standIn_of_mem_sentences hs) hreport ht himmunized hb
  · exact houtside (Or.inr (hpairwise j i hj hi hgt last hlast t ht))

/-- A rule that finds both words of the text, one of which is immunized. -/
def immunizedWord : String :=
  "rule R \x7b pattern \x7b @p \x7d message \"m\"; \x7d phrase p \x7b [\"a\"] | [\"b\"] \x7d " ++
    "disambig D \x7b pattern \x7b [\"a\"] \x7d action immunize; \x7d"

theorem checkText_immunizedWord :
    ∃ set report s t, RuleSet.load immunizedWord = .ok set ∧ set.grammar.length = 2 ∧
      s ∈ (new set {}).sentences none "a b" ∧ t ∈ s.tokens ∧ t.text = "a" ∧ t.immunized = true ∧
      report ∈ (new set {}).checkText none "a b" ∧ report.bytes = ⟨2, 3⟩ ∧
      ∀ b, report.bytes.contains b = true → t.bytes.contains b = false := by
  have hrun : ((RuleSet.load immunizedWord).toOption.bind fun set =>
      ((new set {}).sentences none "a b").head?.bind fun s => ((new set {}).checkSentence s).head?.bind fun report =>
        s.tokens[1]?.map fun t => (set.grammar.length, t.text, t.immunized, report.bytes)) =
      some (2, "a", true, ⟨2, 3⟩) := by decide +kernel
  obtain ⟨set, hload, hrun⟩ := Option.bind_eq_some_iff.mp hrun
  obtain ⟨s, hs, hrun⟩ := Option.bind_eq_some_iff.mp hrun
  obtain ⟨report, hreport, hrun⟩ := Option.bind_eq_some_iff.mp hrun
  obtain ⟨t, ht, hvalues⟩ := Option.map_eq_some_iff.mp hrun
  simp only [Prod.mk.injEq] at hvalues
  obtain ⟨hlength, htext, himmunized, hbytes⟩ := hvalues
  rw [toOption_eq_some] at hload
  have hmem := List.mem_of_head? hs
  have hfound := List.mem_of_head? hreport
  have htoken := List.mem_of_getElem? ht
  obtain ⟨hreports, hspared⟩ := checkText_spares_immunized (c := new set {}) rfl none "a b"
  exact ⟨set, report, s, t, hload, hlength, hmem, htoken, htext, himmunized,
    (hreports report).mpr (Or.inl ⟨s, hmem, hfound⟩), hbytes, hspared s hmem report hfound s hmem t htoken himmunized⟩

end Checker

end GrammarCheck
