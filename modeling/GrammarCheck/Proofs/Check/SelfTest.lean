import GrammarCheck.Proofs.Check.Examples
import GrammarCheck.Proofs.Check.Reports

/-! Examples against what a checker reports. Where no two definitions share their ids, the examples of each one are run
with its own rules. They see all matches, so a checker agrees with them as long as it hides none because of immunized
tokens; of several reports for the marked bytes, the first one counts. -/

namespace GrammarCheck

open Success Example

namespace Example

variable {setting : Setting} {rules : List Rule} {text : String}

theorem reportsIn_none (hlimit : setting.limit = none) (s : Sentence) (rules : List Rule) :
    reportsIn setting s rules = .ok (rules.flatMap (·.reports s)) := by
  induction rules with
  | nil => rfl
  | cons r rest ih =>
    rw [reportsIn, hlimit, r.findMatches_none, ih, List.flatMap_cons]
    show Except.ok (((r.scan s).map (·.2)).map (Report.ofMatch r s) ++ _) = Except.ok _
    rw [List.map_map]
    rfl

/-- Without a limit there is nothing that can go wrong in a search. -/
theorem reports_none (hlimit : setting.limit = none) (rules : List Rule) (text : String) :
    reports setting rules text = .ok (allReports rules ((setting.analyze text).map setting.prepare)) := by
  have hsentence : (fun s => reportsIn setting (disambiguate setting.disambiguation setting.limit s) rules) =
      fun s => pure (rules.flatMap (·.reports (setting.prepare s))) :=
    funext fun s => reportsIn_none hlimit (setting.prepare s) rules
  unfold reports allReports
  rw [hsentence, List.mapM_pure, List.flatMap_map]
  rfl

end Example

/-- The rules that a definition is compiled to. -/
def RuleContext.rulesOf (context : RuleContext) (d : RuleDef) : List Rule := (Compile.rules context d).toOption.getD []

theorem RuleContext.rulesOf_eq {context : RuleContext} {d : RuleDef} {rules : List Rule}
    (h : Compile.rules context d = .ok rules) : context.rulesOf d = rules := by
  rw [rulesOf, h]
  rfl

namespace RuleDef

/-- The failures among the examples of a definition, run with given rules. -/
def failures (setting : Setting) (d : RuleDef) (rules : List Rule) : List ExampleFailure :=
  (d.examples.filterMap (checkGrammarExample setting rules)).map fun (text, fault) => ⟨d.id, d.subId, text, fault⟩

/-- The verdicts on examples of a definition are those of a checker. An incorrect example passes if the first report of
the definition for the marked bytes suggests all that is listed, and a correct one if there is no report of it. -/
structure AgreesWith (setting : Setting) (d : RuleDef) (rules : List Rule) (c : Checker)
    (dictionary : Option Dictionary) : Prop where
  incorrect : ∀ text correction plain span, Text.Marker.strip text = (plain, some span) →
    (∀ s ∈ c.sentences dictionary plain, c.Shows d.ids s) →
    (checkGrammarExample setting rules (.incorrect text correction) = none ↔
      ∃ report, (c.checkText dictionary plain).find? (fun report => report.isOf d.ids && report.bytes == span) =
          some report ∧
        ∀ list, correction = some list → ∀ x ∈ corrections list, x ∈ report.suggestions)
  silent : ∀ text, checkGrammarExample setting rules (.correct text) = none →
    ∀ report ∈ c.checkText dictionary text, report.isOf d.ids = false
  correct : ∀ text, (∀ s ∈ c.sentences dictionary text, c.Shows d.ids s) →
    (checkGrammarExample setting rules (.correct text) = none ↔
      ∀ report ∈ c.checkText dictionary text, report.isOf d.ids = false)

theorem agreesWith {set : RuleSet} {d : RuleDef} {rules : List Rule}
    (hrules : set.grammar.filter (·.ids == d.ids) = rules) (dictionary : Option Dictionary) {options : CheckOptions}
    (hlimit : options.limit = none) :
    d.AgreesWith ⟨Analysis.analyze dictionary, none, set.disambiguation⟩ rules (.new set options) dictionary := by
  have hfound (text : String) :
      reports ⟨Analysis.analyze dictionary, none, set.disambiguation⟩ rules text =
        .ok (allReports rules ((Checker.new set options).sentences dictionary text)) := by
    rw [reports_none rfl, Checker.sentences]
    refine congrArg Except.ok (congrArg (allReports rules) (List.map_congr_left fun s _ => ?_))
    show disambiguate set.disambiguation none s = disambiguate set.disambiguation options.limit s
    rw [hlimit]
  subst hrules
  refine ⟨fun text correction plain span hstrip hshows => ?_, fun text hnone report hreport => ?_,
    fun text hshows => ?_⟩
  · rw [checkIncorrect_eq_none_iff hstrip (hfound plain), Checker.find?_checkText rfl hlimit hshows]
    rfl
  · have hempty := (checkCorrect_eq_none_iff (hfound text)).mp hnone
    rw [← Bool.not_eq_true]
    intro hown
    have hmem := Checker.mem_allReports_of_mem_checkText rfl hlimit hreport hown
    exact List.not_mem_nil (hempty ▸ hmem)
  · rw [checkCorrect_eq_none_iff (hfound text), Checker.forall_isOf_eq_false_iff rfl hlimit hshows]
    rfl

end RuleDef

namespace RuleSet

variable {source : String} {file : RuleFile} {context : RuleContext} {set : RuleSet}

theorem grammarFailures_eq {setting : Setting} {d : RuleDef} {rules : List Rule}
    (h : Compile.rules context d = .ok rules) (hne : rules ≠ []) :
    grammarFailures setting rules = d.failures setting rules := by
  obtain ⟨first, rest, rfl⟩ := List.exists_cons_of_ne_nil hne
  obtain ⟨hid, hsub, hexamples⟩ := Compile.ids_of_mem_rules h first List.mem_cons_self
  unfold grammarFailures RuleDef.failures
  dsimp only
  rw [hid, hsub, hexamples]

/-- The rules of a file are those of its definitions, one after the other. -/
theorem exists_hasRules_of_load (hread : RuleFile.read source = .ok file)
    (hcontext : RuleContext.ofFile file = .ok context) (hload : RuleSet.load source = .ok set) : ∃ grammar, List.Forall₂
      (fun d rules => Compile.rules context d = .ok rules ∧ HasRules Rule.ids RuleDef.ids d rules) file.rules grammar ∧
        set.grammar = grammar.flatten := by
  obtain ⟨file', context', grammar, disambiguation, hread', hcontext', hgrammar, -, rfl⟩ := exists_compiled_of_load hload
  obtain rfl := Except.ok.inj (hread.symm.trans hread')
  obtain rfl := Except.ok.inj (hcontext.symm.trans hcontext')
  have hphrases : context.Filled := Compile.filled_of_ofFile hread hcontext
  have hfilled := (RuleFile.forall_patterns.mp (RuleFile.filled hread).1).1
  have hall : ∀ d ∈ file.rules, ∀ rules, Compile.rules context d = .ok rules →
      HasRules Rule.ids RuleDef.ids d rules := by
    intro d hd rules hrules
    refine ⟨Compile.rules_ne_nil hphrases (hfilled d hd) hrules, fun r hr => ?_⟩
    obtain ⟨hid, hsub, -⟩ := Compile.ids_of_mem_rules hrules r hr
    exact Prod.ext hid hsub
  exact ⟨grammar, ((List.forall₂_and_left _ _).mpr ⟨hall, hgrammar⟩).imp fun d rules h => ⟨h.2, h.1 rules h.2⟩, rfl⟩

/-- Loading with examples runs those of each definition with its own rules. Where immunized tokens hide no match of these
from a checker that has no limit, a correct example passes just in case the checker reports nothing of the definition, and an
incorrect one just in case the first report for the marked bytes has all corrections. -/
theorem loadValidated_agrees_with_checker (hread : RuleFile.read source = .ok file)
    (hcontext : RuleContext.ofFile file = .ok context) (hload : RuleSet.load source = .ok set)
    (hids : (file.rules.map RuleDef.ids).Nodup) (dictionary : Option Dictionary) :
    let setting : Setting := ⟨Analysis.analyze dictionary, none, set.disambiguation⟩
    let failures := (siblings (fun r => (r.rule.id, r.rule.subId)) set.disambiguation).flatMap
      (disambiguationFailures setting) ++ file.rules.flatMap fun d => d.failures setting (context.rulesOf d)
    loadValidated source dictionary none = (if failures.isEmpty then .ok set else .error (.examples failures)) ∧
      ∀ d ∈ file.rules, Compile.rules context d = .ok (context.rulesOf d) ∧
        ∀ options : CheckOptions, options.limit = none →
          d.AgreesWith setting (context.rulesOf d) (.new set options) dictionary := by
  intro setting failures
  obtain ⟨grammar, hgrammar, hset⟩ := exists_hasRules_of_load hread hcontext hload
  have hcompiled : ∀ d ∈ file.rules, Compile.rules context d = .ok (context.rulesOf d) ∧
      context.rulesOf d ≠ [] ∧ set.grammar.filter (·.ids == d.ids) = context.rulesOf d := by
    intro d hd
    obtain ⟨before, after, hfile⟩ := List.append_of_mem hd
    rw [hfile] at hgrammar hids
    obtain ⟨front, back, rfl, hfront, hback⟩ := Contiguous.exists_append_of_forall₂ hgrammar
    cases hback with
    | cons hown hback =>
      rw [RuleContext.rulesOf_eq hown.1, hset]
      exact ⟨hown.1, hown.2.1, filter_flatten (hfront.imp fun _ _ h => h.2) hown.2 (hback.imp fun _ _ h => h.2) hids⟩
  have hfailures : set.failures (Analysis.analyze dictionary) none = failures := by
    have hrules : grammar = file.rules.map context.rulesOf := by
      rw [← List.forall₂_eq_eq_eq, List.forall₂_map_right_iff]
      exact hgrammar.flip.imp fun rules d h => (RuleContext.rulesOf_eq h.1).symm
    have hown : siblings (fun r => (r.id, r.subId)) set.grammar = grammar := by
      rw [hset]
      exact siblings_flatten (hgrammar.imp fun _ _ h => h.2) hids
    show _ ++ (siblings (fun r => (r.id, r.subId)) set.grammar).flatMap (grammarFailures setting) = _ ++ _
    rw [hown, hrules, List.flatMap_map]
    refine congrArg _ (List.flatMap_congr fun d hd => ?_)
    exact grammarFailures_eq (hcompiled d hd).1 (hcompiled d hd).2.1
  refine ⟨?_, fun d hd => ⟨(hcompiled d hd).1, fun options hlimit => ?_⟩⟩
  case refine_2 => exact RuleDef.agreesWith (hcompiled d hd).2.2 dictionary hlimit
  unfold loadValidated loadValidatedWith
  rw [hload, ← hfailures]
  show (if (set.failures (Analysis.analyze dictionary) none).isEmpty then pure set else throw _) = _
  rfl

theorem load_of_ofFile (hread : RuleFile.read source = .ok file) (hset : RuleSet.ofFile file = .ok set) :
    RuleSet.load source = .ok set := by
  rw [RuleSet.load, hread]
  show (RuleSet.ofFile file).mapError LoadError.compile = .ok set
  rw [hset]
  rfl

/-- Two rules, and a rule that immunizes a word of an example. -/
def twoExamined : String :=
  "rule R \x7b pattern \x7b [\"a\"] \x7d message \"m\"; example incorrect \"b <marker>a</marker>\"; \x7d " ++
    "rule S \x7b pattern \x7b [\"c\"] \x7d message \"m\"; \x7d " ++
    "disambig D \x7b pattern \x7b [\"b\"] \x7d action immunize; \x7d"

theorem loadValidated_twoExamined :
    ∃ file context set d d', RuleFile.read twoExamined = .ok file ∧ RuleContext.ofFile file = .ok context ∧
      RuleSet.load twoExamined = .ok set ∧ file.rules = [d, d'] ∧ (file.rules.map RuleDef.ids).Nodup ∧
      set.disambiguation.length = 1 ∧
      d.AgreesWith ⟨Analysis.analyze none, none, set.disambiguation⟩ (context.rulesOf d) (.new set {}) none ∧
      d'.AgreesWith ⟨Analysis.analyze none, none, set.disambiguation⟩ (context.rulesOf d') (.new set {}) none := by
  have hrun : ((RuleFile.read twoExamined).toOption.bind fun file => (RuleContext.ofFile file).toOption.bind
      fun _ => (RuleSet.ofFile file).toOption.map fun set => (file.rules.map RuleDef.ids, set.disambiguation.length)) =
        some ([("R", "1"), ("S", "1")], 1) := by decide +kernel
  obtain ⟨file, hread, hrun⟩ := Option.bind_eq_some_iff.mp hrun
  obtain ⟨context, hcontext, hrun⟩ := Option.bind_eq_some_iff.mp hrun
  obtain ⟨set, hset, hrun⟩ := Option.map_eq_some_iff.mp hrun
  obtain ⟨hids, hone⟩ := Prod.mk.inj hrun
  rw [toOption_eq_some] at hread hcontext hset
  have hload := load_of_ofFile hread hset
  have hnodup : (file.rules.map RuleDef.ids).Nodup := by
    rw [hids]
    decide
  obtain ⟨d, rest, hrules, -, hrest⟩ := List.map_eq_cons_iff.mp hids
  obtain ⟨d', rest', rfl, -, hnone⟩ := List.map_eq_cons_iff.mp hrest
  obtain rfl := List.map_eq_nil_iff.mp hnone
  obtain ⟨-, hagrees⟩ := loadValidated_agrees_with_checker hread hcontext hload hnodup none
  rw [hrules] at hagrees hnodup
  obtain ⟨hfirst, hothers⟩ := List.forall_mem_cons.mp hagrees
  have hsecond := hothers d' (List.mem_singleton_self d')
  exact ⟨file, context, set, d, d', hread, hcontext, hload, hrules, hrules ▸ hnodup, hone, hfirst.2 {} rfl,
    hsecond.2 {} rfl⟩

/-- A rule that finds an immunized word, and one whose siblings find the same bytes with and without the token that opens
a sentence. -/
def differentlyChecked : String :=
  "rule R \x7b pattern \x7b [\"a\"] \x7d message \"m\"; " ++
    "example incorrect \"<marker>a</marker>\"; example correct \"a\"; \x7d " ++
    "disambig D \x7b pattern \x7b [\"a\"] \x7d action immunize; \x7d " ++
    "phrase P \x7b [pos=\"SENT_START\"] [\"b\"] | [\"b\"] \x7d " ++
    "rule S \x7b pattern \x7b @P \x7d message \"m\"; suggestion \"\\1\"; " ++
    "example incorrect \"<marker>b</marker>\" correction=\"b\"; \x7d"

/-- The incorrect example of the first rule passes and its correct one does not, although nothing is reported. The
example of the second rule does not pass, although a report for the marked bytes has the correction. -/
theorem loadValidated_differs_from_checker :
    ∃ file context set d d', RuleFile.read differentlyChecked = .ok file ∧ RuleContext.ofFile file = .ok context ∧
      RuleSet.load differentlyChecked = .ok set ∧ file.rules = [d, d'] ∧ (file.rules.map RuleDef.ids).Nodup ∧
      d.examples = [.incorrect "<marker>a</marker>" none, .correct "a"] ∧
      d'.examples = [.incorrect "<marker>b</marker>" (some "b")] ∧
      (d.failures ⟨Analysis.analyze none, none, set.disambiguation⟩ (context.rulesOf d)).map (·.text) = ["a"] ∧
      (Checker.new set {}).checkText none "a" = [] ∧
      (d'.failures ⟨Analysis.analyze none, none, set.disambiguation⟩ (context.rulesOf d')).map (·.text) =
        ["<marker>b</marker>"] ∧
      ∃ report ∈ (Checker.new set {}).checkText none "b", report.isOf d'.ids = true ∧ report.bytes = ⟨0, 1⟩ ∧
        report.suggestions = ["b"] := by
  have hfile : ((RuleFile.read differentlyChecked).toOption.map fun file => file.rules.map fun d => (d.ids, d.examples)) =
      some [(("R", "1"), [.incorrect "<marker>a</marker>" none, .correct "a"]),
        (("S", "1"), [.incorrect "<marker>b</marker>" (some "b")])] := by decide +kernel
  obtain ⟨file, hread, hfile⟩ := Option.map_eq_some_iff.mp hfile
  have hrun : ((RuleFile.read differentlyChecked).toOption.bind fun file => (RuleContext.ofFile file).toOption.bind
      fun context => (RuleSet.ofFile file).toOption.bind fun set =>
        (((Checker.new set {}).sentences none "b").flatMap (Checker.new set {}).checkSentence).getLast?.map fun report =>
          (file.rules.map fun d =>
            (d.failures ⟨Analysis.analyze none, none, set.disambiguation⟩ (context.rulesOf d)).map (·.text),
            ((Checker.new set {}).sentences none "a").flatMap (Checker.new set {}).checkSentence,
            report.isOf ("S", "1"), report.bytes, report.suggestions)) =
      some ([["a"], ["<marker>b</marker>"]], [], true, ⟨0, 1⟩, ["b"]) := by decide +kernel
  rw [hread, Option.bind_some] at hrun
  obtain ⟨context, hcontext, hrun⟩ := Option.bind_eq_some_iff.mp hrun
  obtain ⟨set, hset, hrun⟩ := Option.bind_eq_some_iff.mp hrun
  obtain ⟨report, hreport, hvalues⟩ := Option.map_eq_some_iff.mp hrun
  obtain ⟨d, rest, hrules, hd, hrest⟩ := List.map_eq_cons_iff.mp hfile
  obtain ⟨d', rest', rfl, hd', hnone⟩ := List.map_eq_cons_iff.mp hrest
  obtain rfl := List.map_eq_nil_iff.mp hnone
  rw [toOption_eq_some] at hread hcontext hset
  rw [hrules] at hvalues
  simp only [List.map_cons, List.map_nil, Prod.mk.injEq, List.cons.injEq, and_true] at hvalues hd hd'
  obtain ⟨⟨hfails, hfails'⟩, hsilent, hown, hbytes, hsuggestions⟩ := hvalues
  obtain ⟨hids, hexamples⟩ := hd
  obtain ⟨hids', hexamples'⟩ := hd'
  have hnodup : (file.rules.map RuleDef.ids).Nodup := by
    rw [hrules, List.map_cons, List.map_singleton, hids, hids']
    decide
  have hnothing : (Checker.new set {}).checkText none "a" = [] := by
    rw [Checker.checkText_of_textRules_eq_nil rfl, hsilent, List.mergeSort_nil]
  have hfound : report ∈ (Checker.new set {}).checkText none "b" := by
    rw [Checker.checkText_of_textRules_eq_nil rfl, List.mem_mergeSort]
    exact List.mem_of_getLast? hreport
  exact ⟨file, context, set, d, d', hread, hcontext, load_of_ofFile hread hset, hrules, hnodup, hexamples, hexamples',
    hfails, hnothing, hfails', report, hfound, hids' ▸ hown, hbytes, hsuggestions⟩

end RuleSet

end GrammarCheck
