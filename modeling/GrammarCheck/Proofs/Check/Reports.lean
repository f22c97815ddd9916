import GrammarCheck.Proofs.Check.Immunity
import GrammarCheck.Proofs.Prefilter.Invisibility

/-! The first report of a kind. Putting reports of the same tokens together keeps the first of them, and sorting by bytes
keeps those of the same bytes in order, so looking for a report finds it as if neither had been done. -/

namespace GrammarCheck

namespace Report

theorem before_trans (a b c : Report) (hab : before a b = true) (hbc : before b c = true) : before a c = true := by
  simp only [before, Bool.or_eq_true, Bool.and_eq_true, decide_eq_true_eq, beq_iff_eq] at *
  omega

theorem before_total (a b : Report) : (before a b || before b a) = true := by
  simp only [before, Bool.or_eq_true, Bool.and_eq_true, decide_eq_true_eq, beq_iff_eq]
  omega

theorem before_of_bytes_eq {a b : Report} (h : a.bytes = b.bytes) : before a b = true := by
  unfold before
  rw [h]
  simp

/-- Reports of the same bytes stay in order. -/
theorem find?_mergeSort {p : Report → Bool} (hp : ∀ a b, p a = true → p b = true → a.bytes = b.bytes)
    (reports : List Report) : (reports.mergeSort before).find? p = reports.find? p := by
  have hordered : (reports.filter p).Pairwise fun a b => before a b = true := by
    refine List.pairwise_of_forall_mem_list fun a ha b hb => before_of_bytes_eq (hp a b ?_ ?_)
    · exact (List.mem_filter.mp ha).2
    · exact (List.mem_filter.mp hb).2
  have hsublist : (reports.filter p).Sublist ((reports.mergeSort before).filter p) := by
    have hkept := (List.sublist_mergeSort before_trans before_total hordered List.filter_sublist).filter p
    simp only [List.filter_filter, Bool.and_self] at hkept
    exact hkept
  have hlength : (reports.filter p).length = ((reports.mergeSort before).filter p).length :=
    ((List.mergeSort_perm reports before).filter p).length_eq.symm
  rw [← List.head?_filter, ← List.head?_filter, hsublist.eq_of_length hlength]

/-- A report that is left out says the same as one before it. -/
theorem find?_foldl_addNew {p : Report → Bool} {known reports : List Report}
    (hp : ∀ a ∈ known ++ reports, ∀ b ∈ known ++ reports, a.sameFinding b = true → p a = p b) :
    (reports.foldl Checker.addNew known).find? p = (known ++ reports).find? p := by
  induction reports generalizing known with
  | nil => rw [List.foldl_nil, List.append_nil]
  | cons first rest ih =>
    rw [List.foldl_cons]
    cases hknown : known.any (·.sameFinding first) with
    | false =>
      rw [show Checker.addNew known first = known ++ [first] from if_neg (by rw [hknown]; exact Bool.false_ne_true)]
      have hassoc : known ++ first :: rest = known ++ [first] ++ rest := by rw [List.append_assoc, List.singleton_append]
      rw [hassoc] at hp ⊢
      exact ih hp
    | true =>
      obtain ⟨other, hother, hsame⟩ := List.any_eq_true.mp hknown
      have hmem {a : Report} (ha : a ∈ known ++ rest) : a ∈ known ++ first :: rest :=
        ((List.sublist_cons_self first rest).append_left known).subset ha
      rw [show Checker.addNew known first = known from if_pos hknown,
        ih fun a ha b hb => hp a (hmem ha) b (hmem hb), List.find?_append, List.find?_append, List.find?_cons]
      cases hfirst : p first with
      | false => rfl
      | true =>
        -- The report that is there already is found before both.
        have hfound : p other = true := by
          rw [hp other (List.mem_append_left _ hother) first (List.mem_append_right _ List.mem_cons_self) hsame, hfirst]
        obtain ⟨report, hreport⟩ := Option.isSome_iff_exists.mp (List.find?_isSome.mpr ⟨other, hother, hfound⟩)
        rw [hreport, Option.some_or, Option.some_or]

end Report

/-- The report is one of a rule with the id and the number. -/
def Report.isOf (ids : String × String) (report : Report) : Bool := report.ruleId == ids.1 && report.subId == ids.2

namespace Rule

def ids (r : Rule) : String × String := (r.id, r.subId)

/-- All matches of a rule in a sentence, as reports. -/
def reports (r : Rule) (s : Sentence) : List Report := (r.scan s).map fun found => Report.ofMatch r s found.2

variable {r : Rule} {s : Sentence} {report : Report}

theorem isOf_of_mem_reports (h : report ∈ r.reports s) (i : String × String) :
    report.isOf i = (r.ids == i) := by
  obtain ⟨found, -, rfl⟩ := List.mem_map.mp h
  rfl

theorem bytes_of_mem_reports (h : report ∈ r.reports s) : report.bytes = Report.byteSpan s report.tokens := by
  obtain ⟨found, -, rfl⟩ := List.mem_map.mp h
  rfl

end Rule

/-- All matches of rules in sentences, as reports. -/
def allReports (rules : List Rule) (sentences : List Sentence) : List Report :=
  sentences.flatMap fun s => rules.flatMap (·.reports s)

theorem find?_flatMap_filter {α β : Type} {p : β → Bool} {q : α → Bool} {f : α → List β} {l : List α}
    (h : ∀ a ∈ l, q a = false → ∀ b ∈ f a, p b = false) : (l.flatMap f).find? p = ((l.filter q).flatMap f).find? p := by
  induction l with
  | nil => rfl
  | cons a rest ih =>
    obtain ⟨hfirst, hrest⟩ := List.forall_mem_cons.mp h
    rw [List.flatMap_cons, List.find?_append, ih hrest]
    cases hq : q a with
    | true => rw [List.filter_cons_of_pos hq, List.flatMap_cons, List.find?_append]
    | false =>
      have hnone : (f a).find? p = none := List.find?_eq_none.mpr fun b hb => by
        rw [hfirst hq b hb]
        exact Bool.false_ne_true
      rw [List.filter_cons_of_neg (by rw [hq]; exact Bool.false_ne_true), hnone, Option.none_or]

namespace Checker

variable {c : Checker} {s : Sentence} {i : String × String}

theorem reportsOfFully_sublist {options : CheckOptions} (hlimit : options.limit = none) (s : Sentence) (r : Rule) :
    (reportsOfFully options s r).Sublist (r.reports s) := by
  unfold reportsOfFully
  rw [hlimit, r.findMatches_none]
  have hfilter := (List.filter_sublist (p := fun m => !(options.skipImmunized && isImmunized s m))
    (l := (r.scan s).map (·.2))).map (Report.ofMatch r s)
  rwa [List.map_map] at hfilter

/-- Immunized tokens are not looked at, or no match of the rules covers one. -/
def Shows (c : Checker) (i : String × String) (s : Sentence) : Prop :=
  c.options.skipImmunized = true → ∀ r ∈ c.rules.grammar, r.ids = i → ∀ found ∈ r.scan s, isImmunized s found.2 = false

theorem reportsOfFully_eq (hlimit : c.options.limit = none) (hshows : c.Shows i s) {r : Rule}
    (hr : r ∈ c.rules.grammar) (hi : r.ids = i) : reportsOfFully c.options s r = r.reports s := by
  unfold reportsOfFully
  rw [hlimit, r.findMatches_none]
  have hall : ((r.scan s).map (·.2)).filter (fun m => !(c.options.skipImmunized && isImmunized s m)) =
      (r.scan s).map (·.2) := by
    refine List.filter_eq_self.mpr (List.forall_mem_map.mpr fun found hfound => ?_)
    cases hskip : c.options.skipImmunized with
    | false => rfl
    | true => rw [hshows hskip r hr hi found hfound]; rfl
  show (((r.scan s).map (·.2)).filter fun m => !(c.options.skipImmunized && isImmunized s m)).map (Report.ofMatch r s) =
    _
  rw [hall, List.map_map]
  rfl

/-- The first report of a rule for some bytes is the first of all its matches for them. -/
theorem find?_checkSentence (hs : s.Coherent) (hlimit : c.options.limit = none) (hshows : c.Shows i s)
    (q : Span → Bool) :
    (c.checkSentence s).find? (fun report => report.isOf i && q report.bytes) =
      ((c.rules.grammar.filter (·.ids == i)).flatMap (·.reports s)).find?
        (fun report => report.isOf i && q report.bytes) := by
  have hmem {report : Report} (h : report ∈ c.rules.grammar.flatMap (reportsOfFully c.options s)) :
      ∃ r ∈ c.rules.grammar, report ∈ r.reports s := by
    obtain ⟨r, hr, hreport⟩ := List.mem_flatMap.mp h
    exact ⟨r, hr, (reportsOfFully_sublist hlimit s r).subset hreport⟩
  rw [c.checkSentence_eq hs, checkSentenceFully, Report.find?_foldl_addNew, List.nil_append]
  · have hothers : ∀ r ∈ c.rules.grammar, (r.ids == i) = false → ∀ report ∈ reportsOfFully c.options s r,
        (report.isOf i && q report.bytes) = false := by
      intro r _ hr report hreport
      rw [Rule.isOf_of_mem_reports ((reportsOfFully_sublist hlimit s r).subset hreport), hr, Bool.false_and]
    rw [find?_flatMap_filter hothers]
    have hown : ∀ r ∈ c.rules.grammar.filter (·.ids == i), reportsOfFully c.options s r = r.reports s := by
      intro r hr
      obtain ⟨hmem, hids⟩ := List.mem_filter.mp hr
      exact reportsOfFully_eq hlimit hshows hmem (beq_iff_eq.mp hids)
    rw [List.flatMap_congr hown]
  · -- In one sentence, reports of the same tokens are for the same bytes.
    rw [List.nil_append]
    intro a ha b hb hsame
    obtain ⟨r, -, ha⟩ := hmem ha
    obtain ⟨r', -, hb⟩ := hmem hb
    simp only [Report.sameFinding, Bool.and_eq_true, beq_iff_eq] at hsame
    obtain ⟨⟨hid, hsub⟩, htokens⟩ := hsame
    rw [Rule.bytes_of_mem_reports ha, Rule.bytes_of_mem_reports hb, Report.isOf, Report.isOf, hid, hsub, htokens]

theorem coherent_of_mem_sentences {dictionary : Option Dictionary} {text : String}
    (h : s ∈ c.sentences dictionary text) : s.Coherent := by
  obtain ⟨s', hs', rfl⟩ := List.mem_map.mp h
  obtain ⟨p, -, rfl⟩ := List.mem_map.mp hs'
  exact disambiguate_keeps (fun _ _ s i f _ _ => s.coherent_modifyToken i f) (fun _ => Sentence.Coherent.withIndex)
    (Sentence.Reached.new _).coherent _

variable {dictionary : Option Dictionary} {text : String}

theorem find?_sentences (hlimit : c.options.limit = none)
    (hshows : ∀ s ∈ c.sentences dictionary text, c.Shows i s) (q : Span → Bool) :
    ((c.sentences dictionary text).flatMap c.checkSentence).find? (fun report => report.isOf i && q report.bytes) =
      (allReports (c.rules.grammar.filter (·.ids == i)) (c.sentences dictionary text)).find?
        (fun report => q report.bytes) := by
  have hown : ∀ report ∈ allReports (c.rules.grammar.filter (·.ids == i)) (c.sentences dictionary text),
      report.isOf i = true := by
    intro report hreport
    obtain ⟨s, -, hreport⟩ := List.mem_flatMap.mp hreport
    obtain ⟨r, hr, hreport⟩ := List.mem_flatMap.mp hreport
    rw [Rule.isOf_of_mem_reports hreport]
    exact (List.mem_filter.mp hr).2
  have hsame : (allReports (c.rules.grammar.filter (·.ids == i)) (c.sentences dictionary text)).find?
      (fun report => q report.bytes) =
        (allReports (c.rules.grammar.filter (·.ids == i)) (c.sentences dictionary text)).find?
          (fun report => report.isOf i && q report.bytes) := by
    rw [← List.head?_filter, ← List.head?_filter]
    refine congrArg List.head? (List.filter_congr fun report hreport => ?_)
    rw [hown report hreport, Bool.true_and]
  rw [hsame, allReports, List.find?_flatMap, List.find?_flatMap]
  generalize hsentences : c.sentences dictionary text = sentences at hshows
  have hcoherent : ∀ s ∈ sentences, s.Coherent := by
    rw [← hsentences]
    exact fun s => coherent_of_mem_sentences
  clear hown hsame hsentences
  induction sentences with
  | nil => rfl
  | cons s rest ih =>
    obtain ⟨hfirst, hrest⟩ := List.forall_mem_cons.mp hshows
    obtain ⟨hs, hothers⟩ := List.forall_mem_cons.mp hcoherent
    rw [List.findSome?_cons, List.findSome?_cons, find?_checkSentence hs hlimit hfirst, ih hrest hothers]

theorem checkText_of_textRules_eq_nil (h : c.textRules = []) (dictionary : Option Dictionary) (text : String) :
    c.checkText dictionary text = ((c.sentences dictionary text).flatMap c.checkSentence).mergeSort Report.before := by
  show ((c.sentences dictionary text).flatMap c.checkSentence ++
    c.textRules.flatMap fun rule => rule (c.sentences dictionary text)).mergeSort Report.before = _
  rw [h, List.flatMap_nil, List.append_nil]

/-- Without a limit, the first report for some bytes is that of the first match for them. -/
theorem find?_checkText (htext : c.textRules = []) (hlimit : c.options.limit = none)
    (hshows : ∀ s ∈ c.sentences dictionary text, c.Shows i s) (span : Span) :
    (c.checkText dictionary text).find? (fun report => report.isOf i && report.bytes == span) =
      (allReports (c.rules.grammar.filter (·.ids == i)) (c.sentences dictionary text)).find? (·.bytes == span) := by
  have hbytes (a b : Report) (ha : (a.isOf i && a.bytes == span) = true) (hb : (b.isOf i && b.bytes == span) = true) :
      a.bytes = b.bytes := by
    rw [Bool.and_eq_true, beq_iff_eq] at ha hb
    rw [ha.2, hb.2]
  rw [checkText_of_textRules_eq_nil htext, Report.find?_mergeSort hbytes]
  exact find?_sentences hlimit hshows (· == span)

theorem forall_isOf_eq_false_iff (htext : c.textRules = []) (hlimit : c.options.limit = none)
    (hshows : ∀ s ∈ c.sentences dictionary text, c.Shows i s) :
    (∀ report ∈ c.checkText dictionary text, report.isOf i = false) ↔
      allReports (c.rules.grammar.filter (·.ids == i)) (c.sentences dictionary text) = [] := by
  have hfind := find?_sentences hlimit hshows fun _ => true
  simp only [Bool.and_true] at hfind
  rw [checkText_of_textRules_eq_nil htext]
  simp only [List.mem_mergeSort]
  have hnone : (∀ report ∈ (c.sentences dictionary text).flatMap c.checkSentence, report.isOf i = false) ↔
      ((c.sentences dictionary text).flatMap c.checkSentence).find? (·.isOf i) = none := by
    rw [List.find?_eq_none]
    simp only [Bool.not_eq_true]
  rw [hnone, hfind]
  cases allReports (c.rules.grammar.filter (·.ids == i)) (c.sentences dictionary text) with
  | nil => exact ⟨fun _ => rfl, fun _ => rfl⟩
  | cons first rest => exact ⟨nofun, nofun⟩

/-- What is reported for a rule is among all its matches. -/
theorem mem_allReports_of_mem_checkText (htext : c.textRules = []) (hlimit : c.options.limit = none) {report : Report}
    (h : report ∈ c.checkText dictionary text) (hi : report.isOf i = true) :
    report ∈ allReports (c.rules.grammar.filter (·.ids == i)) (c.sentences dictionary text) := by
  rw [checkText_of_textRules_eq_nil htext, List.mem_mergeSort] at h
  obtain ⟨s, hs, hreport⟩ := List.mem_flatMap.mp h
  rw [c.checkSentence_eq (coherent_of_mem_sentences hs)] at hreport
  rcases mem_of_mem_foldl_addNew hreport with hnone | hfound
  · exact absurd hnone List.not_mem_nil
  · obtain ⟨r, hr, hown⟩ := List.mem_flatMap.mp hfound
    have hown := (reportsOfFully_sublist hlimit s r).subset hown
    rw [Rule.isOf_of_mem_reports hown] at hi
    exact List.mem_flatMap.mpr ⟨s, hs, List.mem_flatMap.mpr ⟨r, List.mem_filter.mpr ⟨hr, hi⟩, hown⟩⟩

end Checker

end GrammarCheck
