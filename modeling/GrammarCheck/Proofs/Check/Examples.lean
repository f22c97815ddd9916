import GrammarCheck.Proofs.Check.Neighbours
import GrammarCheck.Proofs.Prefilter.Index
import GrammarCheck.Proofs.Rule.WellFormed

/-! What it says of a file that its examples passed. An example holds if what it tells about the rules is so. In a file
that is accepted, the examples of a definition hold for its own rules if the definitions next to it have other ids. -/

namespace GrammarCheck

open Success

namespace Example

/-- An analyzed sentence after the disambiguation rules of the file. -/
def Setting.prepare (setting : Setting) (s : Sentence) : Sentence :=
  disambiguate setting.disambiguation setting.limit s

/-- Some rule reports something in a text. -/
def Finds (setting : Setting) (rules : List Rule) (text : String) (report : Report) : Prop :=
  ∃ s ∈ setting.analyze text, ∃ r ∈ rules, ∃ ms, r.findMatches (setting.prepare s) setting.limit = .ok ms ∧
    ∃ m ∈ ms, report = Report.ofMatch r (setting.prepare s) m

/-- No search for matches in a text runs into its limit. -/
def SearchesEnd (setting : Setting) (rules : List Rule) (text : String) : Prop :=
  ∀ s ∈ setting.analyze text, ∀ r ∈ rules, ∃ ms, r.findMatches (setting.prepare s) setting.limit = .ok ms

end Example

open Example

/-- What an example of a rule tells. One of the reports is for the marked bytes and suggests all that is listed, or
there is no report. -/
def ExampleDef.Holds (setting : Setting) (rules : List Rule) : ExampleDef → Prop
  | .incorrect text correction => ∃ plain span, Text.Marker.strip text = (plain, some span) ∧
      SearchesEnd setting rules plain ∧ ∃ report, Finds setting rules plain report ∧ report.bytes = span ∧
        ∀ list, correction = some list → ∀ c ∈ corrections list, c ∈ report.suggestions
  | .correct text => SearchesEnd setting rules text ∧ ∀ report, ¬Finds setting rules text report

/-- What an example of a disambiguation rule tells. All tokens keep their readings, or the marked one, given the
readings of the input, ends up with those of the output. -/
def DisambiguationExample.Holds (setting : Setting) (rules : List DisambiguationRule) : DisambiguationExample → Prop
  | .untouched text => ∀ s ∈ setting.analyze text, ∃ after, runSiblings setting.limit rules s = .ok after ∧
      after.tokens.map (·.readings) = s.tokens.map (·.readings)
  | .ambiguous text input output => ∃ plain span, Text.Marker.strip text = (plain, some span) ∧
      ∃ s ∈ setting.analyze plain, ∃ i t, s.token? i = some t ∧ t.isSentenceStart = false ∧ t.start = span.start ∧
        ∃ after, runSiblings setting.limit rules (s.modifyToken i (·.setReadings input)) = .ok after ∧
          ∃ t', after.token? i = some t' ∧ ∀ r, r ∈ t'.readings ↔ r ∈ output

namespace Example

variable {setting : Setting}

theorem failOf_eq_none {α : Type} {x : Except ExampleFault α} (h : failOf x = none) : ∃ a, x = .ok a := by
  cases x with
  | ok a => exact ⟨a, rfl⟩
  | error e => exact nomatch h

theorem reportsIn_eq_ok {s : Sentence} {rules : List Rule} {found : List Report}
    (h : reportsIn setting s rules = .ok found) :
    (∀ r ∈ rules, ∃ ms, r.findMatches s setting.limit = .ok ms) ∧
      ∀ report, report ∈ found ↔ ∃ r ∈ rules, ∃ ms, r.findMatches s setting.limit = .ok ms ∧
        ∃ m ∈ ms, report = Report.ofMatch r s m := by
  induction rules generalizing found with
  | nil =>
    obtain rfl := Except.ok.inj h
    exact ⟨List.forall_mem_nil _, fun report => by simp⟩
  | cons r rest ih =>
    obtain ⟨ms, hms, h⟩ := bind_eq_ok.mp h
    rw [mapError_eq_ok] at hms
    obtain ⟨others, hothers, h⟩ := bind_eq_ok.mp h
    obtain rfl := pure_eq_ok.mp h
    obtain ⟨hrest, hmem⟩ := ih hothers
    refine ⟨List.forall_mem_cons.mpr ⟨⟨ms, hms⟩, hrest⟩, fun report => ?_⟩
    rw [List.mem_append, hmem, List.exists_mem_cons_iff, List.mem_map]
    refine or_congr_left ⟨fun ⟨m, hm, heq⟩ => ⟨ms, hms, m, hm, heq.symm⟩, ?_⟩
    rintro ⟨ms', hms', m, hm, heq⟩
    obtain rfl := Except.ok.inj (hms.symm.trans hms')
    exact ⟨m, hm, heq.symm⟩

theorem forall₂_reportsIn {rules : List Rule} {sentences : List Sentence} {lists : List (List Report)}
    (h : List.Forall₂ (fun s found => reportsIn setting (setting.prepare s) rules = .ok found) sentences lists) :
    (∀ s ∈ sentences, ∀ r ∈ rules, ∃ ms, r.findMatches (setting.prepare s) setting.limit = .ok ms) ∧
      ∀ report, report ∈ lists.flatten ↔ ∃ s ∈ sentences, ∃ r ∈ rules, ∃ ms,
        r.findMatches (setting.prepare s) setting.limit = .ok ms ∧
          ∃ m ∈ ms, report = Report.ofMatch r (setting.prepare s) m := by
  induction h with
  | nil => exact ⟨List.forall_mem_nil _, fun report => by simp⟩
  | cons hfirst _ ih =>
    obtain ⟨hends, hmem⟩ := reportsIn_eq_ok hfirst
    obtain ⟨hlater, hothers⟩ := ih
    refine ⟨List.forall_mem_cons.mpr ⟨hends, hlater⟩, fun report => ?_⟩
    rw [List.flatten_cons, List.mem_append, hmem, hothers, List.exists_mem_cons_iff]

/-- The reports in a text are those that some rule gives in some sentence. -/
theorem reports_eq_ok {rules : List Rule} {text : String} {found : List Report}
    (h : reports setting rules text = .ok found) :
    SearchesEnd setting rules text ∧ ∀ report, report ∈ found ↔ Finds setting rules text report := by
  obtain ⟨lists, hlists, h⟩ := bind_eq_ok.mp h
  obtain rfl := pure_eq_ok.mp h
  exact forall₂_reportsIn (forall₂_of_mapM_eq_ok hlists)

theorem checkCorrect_eq_none_iff {rules : List Rule} {text : String} {found : List Report}
    (h : reports setting rules text = .ok found) :
    checkGrammarExample setting rules (.correct text) = none ↔ found = [] := by
  unfold checkGrammarExample checkCorrect
  rw [Option.map_eq_none_iff, h]
  cases found with
  | nil => exact ⟨fun _ => rfl, fun _ => rfl⟩
  | cons first rest =>
    constructor <;> intro hnone <;> cases hnone

/-- The first report for the marked bytes has to suggest all that is listed. -/
theorem checkIncorrect_eq_none_iff {rules : List Rule} {text plain : String} {span : Span}
    (hstrip : Text.Marker.strip text = (plain, some span)) {found : List Report}
    (h : reports setting rules plain = .ok found) (correction : Option String) :
    checkGrammarExample setting rules (.incorrect text correction) = none ↔
      ∃ report, found.find? (·.bytes == span) = some report ∧
        ∀ list, correction = some list → ∀ c ∈ corrections list, c ∈ report.suggestions := by
  unfold checkGrammarExample checkIncorrect
  rw [Option.map_eq_none_iff, hstrip]
  dsimp only
  rw [h]
  dsimp only [bind, Except.bind]
  cases found.find? (·.bytes == span) with
  | none =>
    constructor
    · intro hnone
      cases hnone
    · rintro ⟨report, hreport, -⟩
      cases hreport
  | some report =>
    have hlisted : ((correction.map corrections).getD []).filter (!report.suggestions.contains ·) = [] ↔
        ∀ list, correction = some list → ∀ c ∈ corrections list, c ∈ report.suggestions := by
      rw [List.filter_eq_nil_iff]
      cases correction <;> simp
    simp only [Option.some_inj, exists_eq_left']
    rw [← hlisted]
    cases ((correction.map corrections).getD []).filter (!report.suggestions.contains ·) with
    | nil => exact ⟨fun _ => rfl, fun _ => rfl⟩
    | cons c rest =>
      constructor <;> intro hnone <;> cases hnone

theorem holds_of_checkGrammarExample {rules : List Rule} {e : ExampleDef}
    (h : checkGrammarExample setting rules e = none) : e.Holds setting rules := by
  cases e with
  | incorrect text correction =>
    obtain ⟨_, hcheck⟩ := failOf_eq_none (Option.map_eq_none_iff.mp h)
    unfold checkIncorrect at hcheck
    generalize hstrip : Text.Marker.strip text = stripped at hcheck
    obtain ⟨plain, marker⟩ := stripped
    cases marker with
    | none => exact nomatch hcheck
    | some span =>
      obtain ⟨found, hfound, -⟩ := bind_eq_ok.mp hcheck
      obtain ⟨hends, hmem⟩ := reports_eq_ok hfound
      obtain ⟨report, hfind, hlisted⟩ := (checkIncorrect_eq_none_iff hstrip hfound correction).mp h
      have hbytes := List.find?_some hfind
      rw [beq_iff_eq] at hbytes
      exact ⟨plain, span, hstrip, hends, report, (hmem report).mp (List.mem_of_find?_eq_some hfind), hbytes, hlisted⟩
  | correct text =>
    obtain ⟨_, hcheck⟩ := failOf_eq_none (Option.map_eq_none_iff.mp h)
    obtain ⟨found, hfound, -⟩ := bind_eq_ok.mp hcheck
    obtain ⟨hends, hmem⟩ := reports_eq_ok hfound
    obtain rfl := (checkCorrect_eq_none_iff hfound).mp h
    exact ⟨hends, fun report hreport => absurd ((hmem report).mpr hreport) List.not_mem_nil⟩

theorem size_runSiblings {limit : Option Nat} {rules : List DisambiguationRule} {s after : Sentence}
    (h : runSiblings limit rules s = .ok after) : after.size = s.size := by
  induction rules generalizing s with
  | nil => rw [Except.ok.inj h]
  | cons r rest ih =>
    have hrun : (r.run s limit).1.size = s.size :=
      r.run_keeps (P := fun s' => s'.size = s.size) (fun s' i f _ h => (s'.size_modifyToken i f).trans h)
        (fun _ h => h) rfl limit
    unfold runSiblings at h
    generalize r.run s limit = outcome at h hrun
    obtain ⟨s', result⟩ := outcome
    cases result with
    | ok n => exact (ih h).trans hrun
    | error e => exact nomatch h

/-- Where no change is found, all readings are the same. -/
theorem readings_eq_of_firstChange {before after : List Token} (hlength : after.length = before.length)
    (h : (before.zip after).find? (fun (a, b) => a.readings != b.readings) = none) :
    after.map (·.readings) = before.map (·.readings) := by
  refine List.ext_getElem (by simpa using hlength) fun i hi hi' => ?_
  rw [List.length_map] at hi hi'
  have hmem : (before[i], after[i]) ∈ before.zip after := by
    have hzip : i < (before.zip after).length := by
      rw [List.length_zip]
      omega
    rw [← List.getElem_zip (h := hzip)]
    exact List.getElem_mem hzip
  have hsame := List.find?_eq_none.mp h _ hmem
  rw [Bool.not_eq_true, bne_eq_false_iff_eq] at hsame
  rw [List.getElem_map, List.getElem_map]
  exact hsame.symm

theorem sameReadings_iff {a b : List Reading} : sameReadings a b = true ↔ ∀ r, r ∈ a ↔ r ∈ b := by
  unfold sameReadings
  rw [Bool.and_eq_true, List.all_eq_true, List.all_eq_true]
  simp only [List.contains_iff_mem]
  exact ⟨fun h r => ⟨h.1 r, h.2 r⟩, fun h => ⟨fun r => (h r).mp, fun r => (h r).mpr⟩⟩

theorem tokenAt?_eq_some {sentences : List Sentence} {byte i : Nat} {s : Sentence}
    (h : tokenAt? sentences byte = some (s, i)) :
    s ∈ sentences ∧ ∃ t, s.token? i = some t ∧ t.isSentenceStart = false ∧ t.start = byte := by
  obtain ⟨s', hs', h⟩ := List.exists_of_findSome?_eq_some h
  obtain ⟨j, hj, heq⟩ := Option.map_eq_some_iff.mp h
  obtain ⟨rfl, rfl⟩ := Prod.mk.inj heq
  obtain ⟨hlt, hholds, -⟩ := List.findIdx?_eq_some_iff_getElem.mp hj
  rw [Bool.and_eq_true, Bool.not_eq_true', beq_iff_eq] at hholds
  exact ⟨hs', _, List.getElem?_eq_getElem hlt, hholds.1, hholds.2⟩

theorem holds_of_checkDisambiguationExample {rules : List DisambiguationRule} {e : DisambiguationExample}
    (h : checkDisambiguationExample setting rules e = none) : e.Holds setting rules := by
  cases e with
  | untouched text =>
    obtain ⟨_, hcheck⟩ := failOf_eq_none (Option.map_eq_none_iff.mp h)
    intro s hs
    have hsentence := forM_eq_ok.mp hcheck s hs
    obtain ⟨after, hafter, hsentence⟩ := bind_eq_ok.mp hsentence
    cases hchange : firstChange s after with
    | some fault =>
      rw [hchange] at hsentence
      exact nomatch hsentence
    | none =>
      have hnone := Option.map_eq_none_iff.mp hchange
      exact ⟨after, hafter, readings_eq_of_firstChange (size_runSiblings hafter) hnone⟩
  | ambiguous text input output =>
    obtain ⟨_, hcheck⟩ := failOf_eq_none (Option.map_eq_none_iff.mp h)
    unfold checkAmbiguous at hcheck
    generalize hstrip : Text.Marker.strip text = stripped at hcheck
    obtain ⟨plain, marker⟩ := stripped
    cases marker with
    | none => exact nomatch hcheck
    | some span =>
      cases htoken : tokenAt? (setting.analyze plain) span.start with
      | none =>
        dsimp only at hcheck
        rw [htoken] at hcheck
        exact nomatch hcheck
      | some found =>
        obtain ⟨s, i⟩ := found
        dsimp only at hcheck
        rw [htoken] at hcheck
        obtain ⟨hs, t, ht, hopening, hstart⟩ := tokenAt?_eq_some htoken
        obtain ⟨after, hafter, hcheck⟩ := bind_eq_ok.mp hcheck
        -- No rule adds or drops tokens, so the marked token has its index still.
        have hsize : after.size = s.size := (size_runSiblings hafter).trans (s.size_modifyToken i _)
        obtain ⟨hi, -⟩ := List.getElem?_eq_some_iff.mp ht
        have hi' : i < after.tokens.length := by
          rw [show after.tokens.length = s.tokens.length from hsize]
          exact hi
        have ht' : after.token? i = some after.tokens[i] := List.getElem?_eq_getElem hi'
        refine ⟨plain, span, hstrip, s, hs, i, t, ht, hopening, hstart, after, hafter, _, ht', ?_⟩
        rw [ht', Option.map_some, Option.getD_some] at hcheck
        cases hsame : sameReadings after.tokens[i].readings output with
        | true => exact sameReadings_iff.mp hsame
        | false =>
          rw [hsame] at hcheck
          exact nomatch hcheck

end Example

namespace Compile

theorem ids_of_mem_rules {context : RuleContext} {d : RuleDef} {rules : List Rule}
    (h : Compile.rules context d = .ok rules) :
    ∀ r ∈ rules, r.id = d.id ∧ r.subId = d.subId ∧ r.examples = d.examples := by
  obtain ⟨ps, -, h⟩ := bind_eq_ok.mp h
  obtain ⟨texts, -, h⟩ := bind_eq_ok.mp h
  obtain rfl := pure_eq_ok.mp h
  rw [List.forall_mem_map]
  exact fun _ _ => ⟨rfl, rfl, rfl⟩

theorem ids_of_mem_disambiguationRules {context : RuleContext} {d : DisambiguationDef}
    {rules : List DisambiguationRule} (h : disambiguationRules context d = .ok rules) :
    ∀ r ∈ rules, r.rule.id = d.id ∧ r.rule.subId = "1" ∧ r.examples = d.examples := by
  obtain ⟨ps, -, h⟩ := bind_eq_ok.mp h
  intro r hr
  obtain ⟨p, -, hone⟩ := exists_of_mem_of_mapM_eq_ok h hr
  obtain ⟨a, -, hone⟩ := bind_eq_ok.mp hone
  obtain rfl := pure_eq_ok.mp hone
  exact ⟨rfl, rfl, rfl⟩

theorem rules_ne_nil {context : RuleContext} (hcontext : context.Filled) {d : RuleDef}
    (hd : FilledItems d.pattern.items) {rules : List Rule} (h : Compile.rules context d = .ok rules) : rules ≠ [] := by
  obtain ⟨ps, hps, h⟩ := bind_eq_ok.mp h
  obtain ⟨texts, -, h⟩ := bind_eq_ok.mp h
  obtain rfl := pure_eq_ok.mp h
  exact mt List.map_eq_nil_iff.mp (patterns_ne_nil hcontext hd hps)

theorem disambiguationRules_ne_nil {context : RuleContext} (hcontext : context.Filled) {d : DisambiguationDef}
    (hd : FilledItems d.pattern.items) {rules : List DisambiguationRule}
    (h : disambiguationRules context d = .ok rules) : rules ≠ [] := by
  obtain ⟨ps, hps, h⟩ := bind_eq_ok.mp h
  have hlength := (forall₂_of_mapM_eq_ok h).length_eq
  rintro rfl
  exact patterns_ne_nil hcontext hd hps (List.length_eq_zero_iff.mp hlength)

end Compile

def RuleDef.ids (d : RuleDef) : String × String := (d.id, d.subId)

/-- Disambiguation rules are not numbered. -/
def DisambiguationDef.ids (d : DisambiguationDef) : String × String := (d.id, "1")

/-- In a file that is accepted with its examples, the examples of each definition hold of its own rules, unless a
definition next to it has the same ids. Of a row of such definitions, the examples of the first one hold of the rules
of all of them, and the examples of the others are not looked at. -/
theorem RuleSet.firstExamplesHold_of_loadValidated {source : String} {analyze : String → List Sentence}
    {limit : Option Nat} {set : RuleSet} (h : RuleSet.loadValidatedWith source analyze limit = .ok set) :
    RuleSet.load source = .ok set ∧ ∃ file context, RuleFile.read source = .ok file ∧
      RuleContext.ofFile file = .ok context ∧
      FirstExamplesHold RuleDef.ids (Compile.rules context) (·.examples)
        (fun rules e => e.Holds ⟨analyze, limit, set.disambiguation⟩ rules) file.rules ∧
      FirstExamplesHold DisambiguationDef.ids (Compile.disambiguationRules context) (·.examples)
        (fun rules e => e.Holds ⟨analyze, limit, set.disambiguation⟩ rules) file.disambiguations := by
  obtain ⟨set', hset', h⟩ := bind_eq_ok.mp h
  rw [mapError_eq_ok] at hset'
  dsimp only at h
  split at h
  case isFalse => exact nomatch h
  case isTrue hempty =>
    obtain rfl := pure_eq_ok.mp h
    refine ⟨hset', ?_⟩
    rw [List.isEmpty_iff, RuleSet.failures, List.append_eq_nil_iff, List.flatMap_eq_nil_iff,
      List.flatMap_eq_nil_iff] at hempty
    obtain ⟨hdisambiguation, hgrammar⟩ := hempty
    obtain ⟨file, hread, hfile⟩ := bind_eq_ok.mp hset'
    rw [mapError_eq_ok] at hread hfile
    obtain ⟨context, hcontext, hfile⟩ := bind_eq_ok.mp hfile
    obtain ⟨grammar, hcompiled, hfile⟩ := bind_eq_ok.mp hfile
    obtain ⟨disambiguation, hcompiled', hfile⟩ := bind_eq_ok.mp hfile
    obtain rfl := pure_eq_ok.mp hfile
    obtain ⟨hrules, hdisambiguations⟩ := RuleFile.forall_patterns.mp (RuleFile.filled hread).1
    have hphrases : context.Filled := Compile.filled_of_ofFile hread hcontext
    refine ⟨file, context, hread, hcontext, ?_, ?_⟩
    · refine firstExamplesHold (fun r => (r.id, r.subId)) Rule.examples (forall₂_of_mapM_eq_ok hcompiled)
        (fun d hd rs hrs => ?_) (fun d rs hrs r hr => ?_) fun first rest hmem e he => ?_
      · refine ⟨Compile.rules_ne_nil hphrases (hrules d hd) hrs, fun r hr => ?_⟩
        obtain ⟨hid, hsub, -⟩ := Compile.ids_of_mem_rules hrs r hr
        exact Prod.ext hid hsub
      · exact (Compile.ids_of_mem_rules hrs r hr).2.2
      · have hnone := List.map_eq_nil_iff.mp (hgrammar _ hmem)
        exact Example.holds_of_checkGrammarExample (List.filterMap_eq_nil_iff.mp hnone e he)
    · refine firstExamplesHold (fun r => (r.rule.id, r.rule.subId)) DisambiguationRule.examples
        (forall₂_of_mapM_eq_ok hcompiled') (fun d hd rs hrs => ?_) (fun d rs hrs r hr => ?_) fun first rest hmem e he => ?_
      · refine ⟨Compile.disambiguationRules_ne_nil hphrases (hdisambiguations d hd) hrs, fun r hr => ?_⟩
        obtain ⟨hid, hsub, -⟩ := Compile.ids_of_mem_disambiguationRules hrs r hr
        exact Prod.ext hid hsub
      · exact (Compile.ids_of_mem_disambiguationRules hrs r hr).2.2
      · have hnone := List.map_eq_nil_iff.mp (hdisambiguation _ hmem)
        exact Example.holds_of_checkDisambiguationExample (List.filterMap_eq_nil_iff.mp hnone e he)

namespace RuleSet

/-- A rule with an example of either kind. -/
def examplesOfBothKinds : String :=
  "rule R \x7b pattern \x7b [\"could\"] marker \x7b [\"of\"] \x7d \x7d message \"<suggestion>have</suggestion>\"; " ++
    "example incorrect \"could <marker>of</marker>\" correction=\"have\"; example correct \"could have\"; \x7d"

theorem examplesHold_of_bothKinds :
    ∃ set file context d rules, loadValidated examplesOfBothKinds none none = .ok set ∧
      RuleFile.read examplesOfBothKinds = .ok file ∧ file.rules = [d] ∧ Compile.rules context d = .ok rules ∧
      d.examples = [.incorrect "could <marker>of</marker>" (some "have"), .correct "could have"] ∧
      ∀ e ∈ d.examples, e.Holds ⟨Analysis.analyze none, none, set.disambiguation⟩ rules := by
  have hrun : ((loadValidated examplesOfBothKinds none none).toOption.bind fun set =>
      (RuleFile.read examplesOfBothKinds).toOption.map fun file => file.rules.map (·.examples)) =
        some [[.incorrect "could <marker>of</marker>" (some "have"), .correct "could have"]] := by decide +kernel
  obtain ⟨set, hset, hrun⟩ := Option.bind_eq_some_iff.mp hrun
  obtain ⟨file, hfile, hrun⟩ := Option.map_eq_some_iff.mp hrun
  rw [toOption_eq_some] at hset hfile
  obtain ⟨d, rest, hrules, hexamples, hrest⟩ := List.map_eq_cons_iff.mp hrun
  obtain rfl := List.map_eq_nil_iff.mp hrest
  obtain ⟨-, file', context, hread, -, hgrammar, -⟩ := firstExamplesHold_of_loadValidated hset
  obtain rfl := Except.ok.inj (hfile.symm.trans hread)
  obtain ⟨rules, hcompiled, hholds⟩ := hgrammar [] d [] [] hrules ⟨List.forall_mem_nil _, nofun, nofun⟩
  cases hcompiled with
  | cons hown hnone =>
    obtain rfl := List.forall₂_nil_left_iff.mp hnone
    rw [List.flatten_singleton] at hholds
    exact ⟨set, file, context, d, _, hset, hfile, hrules, hown, hexamples, hholds⟩

/-- The second definition has the id of the first one, and its example is wrong. -/
def repeatedIds : String :=
  "rule R \x7b pattern \x7b [\"a\"] \x7d message \"m\"; example correct \"b\"; \x7d " ++
    "rule R \x7b pattern \x7b [\"c\"] \x7d message \"m\"; example correct \"c\"; \x7d"

/-- The file is accepted, although the second example does not hold. -/
theorem loadValidated_repeatedIds :
    ∃ set file context d rules e, loadValidated repeatedIds none none = .ok set ∧
      RuleFile.read repeatedIds = .ok file ∧ RuleContext.ofFile file = .ok context ∧ d ∈ file.rules ∧
      Compile.rules context d = .ok rules ∧ e ∈ d.examples ∧
      ¬e.Holds ⟨Analysis.analyze none, none, set.disambiguation⟩ rules := by
  have hrun : ((loadValidated repeatedIds none none).toOption.bind fun set =>
      (RuleFile.read repeatedIds).toOption.bind fun file => (RuleContext.ofFile file).toOption.bind fun context =>
        file.rules.getLast?.bind fun d => (Compile.rules context d).toOption.bind fun rules =>
          (Example.reports ⟨Analysis.analyze none, none, set.disambiguation⟩ rules "c").toOption.map fun found =>
            (d.examples, found.isEmpty)) = some ([.correct "c"], false) := by decide +kernel
  obtain ⟨set, hset, hrun⟩ := Option.bind_eq_some_iff.mp hrun
  obtain ⟨file, hfile, hrun⟩ := Option.bind_eq_some_iff.mp hrun
  obtain ⟨context, hcontext, hrun⟩ := Option.bind_eq_some_iff.mp hrun
  obtain ⟨d, hd, hrun⟩ := Option.bind_eq_some_iff.mp hrun
  obtain ⟨rules, hrules, hrun⟩ := Option.bind_eq_some_iff.mp hrun
  obtain ⟨found, hfound, hrun⟩ := Option.map_eq_some_iff.mp hrun
  rw [toOption_eq_some] at hset hfile hcontext hrules hfound
  obtain ⟨hexamples, hempty⟩ := Prod.mk.inj hrun
  obtain ⟨report, hreport⟩ := List.exists_mem_of_ne_nil _ (List.isEmpty_eq_false_iff.mp hempty)
  have hfinds := ((Example.reports_eq_ok hfound).2 report).mp hreport
  have he : ExampleDef.correct "c" ∈ d.examples := by
    rw [hexamples]
    exact List.mem_singleton_self _
  exact ⟨set, file, context, d, rules, _, hset, hfile, hcontext, List.mem_of_getLast? hd, hrules, he,
    fun hholds => hholds.2 report hfinds⟩

end RuleSet

end GrammarCheck
