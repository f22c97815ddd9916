import GrammarCheck.Proofs.Check.Examples
import GrammarCheck.Proofs.Check.Reports

/-! Rules do not disturb one another. A report is only left out for an earlier one of the same ids, and sorting keeps
reports in order whatever stands between them, so the reports of some ids are those that the rules of these ids give by
themselves. -/

namespace GrammarCheck

open Analysis (analyze)
open Success

namespace Report

theorem isOf_eq_of_sameFinding {a b : Report} (h : a.sameFinding b = true) (i : String × String) :
    a.isOf i = b.isOf i := by
  simp only [sameFinding, Bool.and_eq_true, beq_iff_eq] at h
  rw [isOf, isOf, h.1.1, h.1.2]

/-- A report comes behind those that it need not stand before. -/
theorem mergeSort_cons_of_split {first : Report} {rest front back : List Report}
    (hrest : rest.mergeSort before = front ++ back) (hfront : ∀ b ∈ front, before first b = false)
    (hback : ∀ b ∈ back, before first b = true) : (first :: rest).mergeSort before = front ++ first :: back := by
  obtain ⟨front', back', hsorted, hrest', hfront'⟩ := List.mergeSort_cons before_trans before_total first rest
  have hordered := List.pairwise_mergeSort before_trans before_total (first :: rest)
  rw [hsorted] at hordered
  have hback' : ∀ b ∈ back', before first b = true :=
    fun b hb => (List.pairwise_cons.mp (List.pairwise_append.mp hordered).2.1).1 b hb
  -- Both splits are where the sorted reports begin to stand behind the first one.
  have hsplit {front back : List Report} (hfront : ∀ b ∈ front, before first b = false)
      (hback : ∀ b ∈ back, before first b = true) : (front ++ back).takeWhile (!before first ·) = front := by
    rw [List.takeWhile_append_of_pos fun b hb => by rw [hfront b hb]; rfl]
    cases back with
    | nil => exact List.append_nil front
    | cons b back => rw [List.takeWhile_cons_of_neg (by rw [hback b List.mem_cons_self]; decide), List.append_nil]
  have hsame : front' = front := calc
    front' = (front' ++ back').takeWhile (!before first ·) :=
      (hsplit (fun b hb => by simpa using hfront' b hb) hback').symm
    _ = (front ++ back).takeWhile (!before first ·) := by rw [← hrest', hrest]
    _ = front := hsplit hfront hback
  subst hsame
  rw [hsorted, List.append_cancel_left (hrest'.symm.trans hrest)]

/-- Sorting keeps the order of some of the reports whatever the others are. -/
theorem filter_mergeSort (p : Report → Bool) (reports : List Report) :
    (reports.mergeSort before).filter p = (reports.filter p).mergeSort before := by
  induction reports with
  | nil => rw [List.filter_nil, List.mergeSort_nil, List.filter_nil]
  | cons first rest ih =>
    obtain ⟨front, back, hsorted, hrest, hfront⟩ := List.mergeSort_cons before_trans before_total first rest
    rw [hrest, List.filter_append] at ih
    cases hp : p first with
    | false =>
      rw [hsorted, List.filter_append, List.filter_cons_of_neg (by rw [hp]; decide), ih,
        List.filter_cons_of_neg (by rw [hp]; decide)]
    | true =>
      have hordered := List.pairwise_mergeSort before_trans before_total (first :: rest)
      rw [hsorted] at hordered
      have hback := (List.pairwise_cons.mp (List.pairwise_append.mp hordered).2.1).1
      rw [hsorted, List.filter_append, List.filter_cons_of_pos hp, List.filter_cons_of_pos hp]
      exact (mergeSort_cons_of_split ih.symm (fun b hb => by simpa using hfront b (List.mem_of_mem_filter hb))
        fun b hb => hback b (List.mem_of_mem_filter hb)).symm

/-- A report is left out for one of the same ids only. -/
theorem filter_foldl_addNew (i : String × String) (known reports : List Report) :
    (reports.foldl Checker.addNew known).filter (·.isOf i) =
      (reports.filter (·.isOf i)).foldl Checker.addNew (known.filter (·.isOf i)) := by
  induction reports generalizing known with
  | nil => rfl
  | cons first rest ih =>
    rw [List.foldl_cons, ih]
    cases hfirst : first.isOf i with
    | false =>
      have hkept : (Checker.addNew known first).filter (·.isOf i) = known.filter (·.isOf i) := by
        unfold Checker.addNew
        split
        · rfl
        · rw [List.filter_append, List.filter_cons_of_neg (by rw [hfirst]; decide), List.filter_nil, List.append_nil]
      rw [hkept, List.filter_cons_of_neg (by rw [hfirst]; decide)]
    | true =>
      have hany : (known.filter (·.isOf i)).any (·.sameFinding first) = known.any (·.sameFinding first) := by
        rw [List.any_filter]
        refine congrArg known.any (funext fun a => ?_)
        cases hsame : a.sameFinding first with
        | false => exact Bool.and_false _
        | true => rw [isOf_eq_of_sameFinding hsame i, hfirst, Bool.and_self]
      have hadded : (Checker.addNew known first).filter (·.isOf i) =
          Checker.addNew (known.filter (·.isOf i)) first := by
        unfold Checker.addNew
        rw [hany]
        split
        · rfl
        · rw [List.filter_append, List.filter_cons_of_pos hfirst, List.filter_nil]
      rw [List.filter_cons_of_pos hfirst, List.foldl_cons, hadded]

end Report

namespace Checker

/-- The checker with the grammar rules of some ids alone. -/
def only (c : Checker) (i : String × String) : Checker :=
  { c with rules := { c.rules with grammar := c.rules.grammar.filter (·.ids == i) } }

theorem only_only (c : Checker) (i : String × String) : (c.only i).only i = c.only i := by
  unfold only
  rw [List.filter_filter]
  simp only [Bool.and_self]

theorem filter_reportsOf (options : CheckOptions) (s : Sentence) (i : String × String) (rules : List Rule) :
    (rules.flatMap (reportsOf options s)).filter (·.isOf i) =
      (rules.filter (·.ids == i)).flatMap (reportsOf options s) := by
  have hown (r : Rule) : ∀ report ∈ reportsOf options s r, report.isOf i = (r.ids == i) := by
    intro report hreport
    unfold reportsOf at hreport
    split at hreport
    · exact absurd hreport List.not_mem_nil
    · obtain ⟨m, -, rfl⟩ := List.mem_map.mp hreport
      rfl
  induction rules with
  | nil => rfl
  | cons r rest ih =>
    rw [List.flatMap_cons, List.filter_append, ih]
    cases hr : r.ids == i with
    | false =>
      have hnone : (reportsOf options s r).filter (·.isOf i) = [] :=
        List.filter_eq_nil_iff.mpr fun report hreport => by rw [hown r report hreport, hr]; decide
      rw [hnone, List.nil_append, List.filter_cons_of_neg (by rw [hr]; decide)]
    | true =>
      have hall : (reportsOf options s r).filter (·.isOf i) = reportsOf options s r :=
        List.filter_eq_self.mpr fun report hreport => by rw [hown r report hreport, hr]
      have hcons : (r :: rest).filter (·.ids == i) = r :: rest.filter (·.ids == i) := List.filter_cons_of_pos hr
      rw [hall, hcons, List.flatMap_cons]

/-- What is reported in a sentence for some ids is what the rules of these ids report by themselves. -/
theorem filter_checkSentence (c : Checker) (s : Sentence) (i : String × String) :
    (c.checkSentence s).filter (·.isOf i) = (c.only i).checkSentence s := by
  unfold checkSentence
  rw [Report.filter_foldl_addNew, List.filter_nil, filter_reportsOf]
  rfl

theorem filter_flatMap_checkSentence (c : Checker) (sentences : List Sentence) (i : String × String) :
    (sentences.flatMap c.checkSentence).filter (·.isOf i) = sentences.flatMap (c.only i).checkSentence := by
  rw [List.filter_flatMap]
  exact List.flatMap_congr fun s _ => c.filter_checkSentence s i

/-- What is reported in a text for some ids does not depend on the grammar rules of other ids. -/
theorem filter_checkTextWith (c : Checker) (analyze : String → List Sentence) (text : String) (i : String × String) :
    (c.checkTextWith analyze text).filter (·.isOf i) = ((c.only i).checkTextWith analyze text).filter (·.isOf i) := by
  have hdisambiguate : (c.only i).disambiguate = c.disambiguate := rfl
  unfold checkTextWith
  rw [hdisambiguate]
  dsimp only
  rw [Report.filter_mergeSort, Report.filter_mergeSort, List.filter_append, List.filter_append,
    filter_flatMap_checkSentence, filter_flatMap_checkSentence, only_only]
  rfl

/-- What is reported for a definition whose ids no other rule has is what its own rules report alone: other grammar rules
neither add to it nor take from it, also where they run into the limit. -/
theorem checkText_of_definition {context : RuleContext} {d : RuleDef} {own before after : List Rule}
    (hown : Compile.rules context d = .ok own) (hothers : ∀ r ∈ before ++ after, r.ids ≠ d.ids)
    (disambiguation : List DisambiguationRule) (textRules : List TextRule) (options : CheckOptions)
    (analyze : String → List Sentence) (text : String) :
    ((mk ⟨before ++ own ++ after, disambiguation⟩ textRules options).checkTextWith analyze text).filter (·.isOf d.ids) =
      ((mk ⟨own, disambiguation⟩ textRules options).checkTextWith analyze text).filter (·.isOf d.ids) := by
  have hself : own.filter (·.ids == d.ids) = own := by
    refine List.filter_eq_self.mpr fun r hr => ?_
    obtain ⟨hid, hsub, -⟩ := Compile.ids_of_mem_rules hown r hr
    rw [Rule.ids, RuleDef.ids, hid, hsub, beq_self_eq_true]
  have hnone {rules : List Rule} (hrules : ∀ r ∈ rules, r.ids ≠ d.ids) : rules.filter (·.ids == d.ids) = [] :=
    List.filter_eq_nil_iff.mpr fun r hr => by rw [beq_iff_eq]; exact hrules r hr
  obtain ⟨hbefore, hafter⟩ := List.forall_mem_append.mp hothers
  rw [filter_checkTextWith, filter_checkTextWith (mk ⟨own, disambiguation⟩ textRules options)]
  simp only [only, List.filter_append, hself, hnone hbefore, hnone hafter, List.nil_append, List.append_nil]

/-- A rule that needs many steps, and one that needs few. -/
def besideFailure : String :=
  "rule S \x7b pattern \x7b [not, \"b\", max=*] [not, \"a\"] \x7d message \"m\"; \x7d " ++
    "rule R \x7b pattern \x7b [\"a\"] \x7d message \"m\"; \x7d"

/-- With a limit of three steps the first definition fails on the only sentence, and the second one is reported in it. -/
theorem checkText_besideFailure :
    ∃ file context d d' own others, RuleFile.read besideFailure = .ok file ∧ RuleContext.ofFile file = .ok context ∧
      file.rules = [d', d] ∧ Compile.rules context d' = .ok others ∧ Compile.rules context d = .ok own ∧
      (∀ r ∈ others ++ [], r.ids ≠ d.ids) ∧
      (∀ r ∈ others, ∀ s ∈ analyze none "a", r.findMatches s (some 3) = .error (.stepLimit 3)) ∧
      (∃ report ∈ (new ⟨others ++ own ++ [], []⟩ ⟨some 3, true⟩).checkTextWith (analyze none) "a",
        report.isOf d.ids = true) ∧
      ((new ⟨others ++ own ++ [], []⟩ ⟨some 3, true⟩).checkTextWith (analyze none) "a").filter (·.isOf d.ids) =
        ((new ⟨own, []⟩ ⟨some 3, true⟩).checkTextWith (analyze none) "a").filter (·.isOf d.ids) := by
  have hfile : ((RuleFile.read besideFailure).toOption.map fun file => file.rules.map RuleDef.ids) =
      some [("S", "1"), ("R", "1")] := by decide +kernel
  have hrun : ((RuleFile.read besideFailure).toOption.bind fun file => (RuleContext.ofFile file).toOption.bind
      fun context => file.rules.head?.bind fun d' => file.rules.getLast?.bind fun d =>
        (Compile.rules context d').toOption.bind fun others => (Compile.rules context d).toOption.bind fun own =>
          (((new ⟨others ++ own ++ [], []⟩ ⟨some 3, true⟩).sentences none "a").flatMap
            (new ⟨others ++ own ++ [], []⟩ ⟨some 3, true⟩).checkSentence).head?.map fun report =>
              (report.isOf ("R", "1"), others.all fun r => (analyze none "a").all fun s =>
                decide (r.findMatches s (some 3) = .error (.stepLimit 3)))) =
      some (true, true) := by decide +kernel
  obtain ⟨file, hread, hids⟩ := Option.map_eq_some_iff.mp hfile
  obtain ⟨d', rest, hrules, hd', hrest⟩ := List.map_eq_cons_iff.mp hids
  obtain ⟨d, rest', rfl, hd, hnone⟩ := List.map_eq_cons_iff.mp hrest
  obtain rfl := List.map_eq_nil_iff.mp hnone
  rw [hread, Option.bind_some, hrules] at hrun
  obtain ⟨context, hcontext, hrun⟩ := Option.bind_eq_some_iff.mp hrun
  rw [List.head?_cons, List.getLast?_cons_cons, List.getLast?_singleton, Option.bind_some, Option.bind_some] at hrun
  obtain ⟨others, hothers, hrun⟩ := Option.bind_eq_some_iff.mp hrun
  obtain ⟨own, hown, hrun⟩ := Option.bind_eq_some_iff.mp hrun
  obtain ⟨report, hreport, hvalues⟩ := Option.map_eq_some_iff.mp hrun
  obtain ⟨hreported, hfails⟩ := Prod.mk.inj hvalues
  rw [toOption_eq_some] at hread hcontext hothers hown
  have hapart : ∀ r ∈ others ++ [], r.ids ≠ d.ids := by
    rw [List.append_nil]
    intro r hr
    obtain ⟨hid, hsub, -⟩ := Compile.ids_of_mem_rules hothers r hr
    have hsame : r.ids = d'.ids := by rw [Rule.ids, hid, hsub]; rfl
    rw [hsame, hd', hd]
    decide
  have hfound : report ∈ (new ⟨others ++ own ++ [], []⟩ ⟨some 3, true⟩).checkTextWith (analyze none) "a" :=
    mem_checkText.mpr (Or.inl (List.mem_flatMap.mp (List.mem_of_head? hreport)))
  refine ⟨file, context, d, d', own, others, hread, hcontext, hrules, hothers, hown, hapart, ?_,
    ⟨report, hfound, hd ▸ hreported⟩, checkText_of_definition hown hapart [] [] ⟨some 3, true⟩ (analyze none) "a"⟩
  intro r hr s hs
  exact of_decide_eq_true (List.all_eq_true.mp (List.all_eq_true.mp hfails r hr) s hs)

end Checker

end GrammarCheck
