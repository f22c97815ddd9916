import GrammarCheck.Source.RuleFile
import GrammarCheck.Proofs.Success

/-! Where the definitions of a rule file come from. Each is defined by a form of its kind, and no form of the file is
refused. A rule that gives its pattern twice has the last one, but the others have to make sense too. -/

namespace GrammarCheck

open Success

namespace Source

/-- A rule of the form gives the pattern. -/
def Form.HasPattern (p : PatternForm) : Form → Prop
  | .feature _ => False
  | .phrase _ => False
  | .group _ _ rules => ∃ r ∈ rules, RuleEntry.pattern p ∈ r.entries
  | .rule r => RuleEntry.pattern p ∈ r.entries
  | .disambiguation d => DisambiguationEntry.pattern p ∈ d.entries

/-- All that the form gives makes sense. -/
structure Form.IsAccepted (form : Form) : Prop where
  pattern : ∀ p, form.HasPattern p → ∃ q, p.define = .ok q
  phrase : ∀ p, form = .phrase p → ∃ q, p.define = .ok q
  feature : ∀ f, form = .feature f → ∃ q, f.define = .ok q

/-- What one entry adds: a pattern takes the place of the last one. -/
theorem RuleDraft.pattern_of_add {draft draft' : RuleDraft} {entry : RuleEntry} (h : draft.add entry = .ok draft') :
    draft'.pattern = draft.pattern ∨
      ∃ q, (∃ p, entry = .pattern p ∧ p.define = .ok q) ∧ draft'.pattern = some q := by
  cases entry with
  | pattern p =>
    obtain ⟨q, hq, h⟩ := bind_eq_ok.mp h
    exact Or.inr ⟨q, ⟨p, rfl, hq⟩, pure_eq_ok.mp h ▸ rfl⟩
  | message text => exact Or.inl (Except.ok.inj h ▸ rfl)
  | short text => exact Or.inl (Except.ok.inj h ▸ rfl)
  | suggestion text => exact Or.inl (Except.ok.inj h ▸ rfl)
  | overlap => exact Or.inl (Except.ok.inj h ▸ rfl)
  | sample form =>
    obtain ⟨_, -, h⟩ := bind_eq_ok.mp h
    exact Or.inl (pure_eq_ok.mp h ▸ rfl)

theorem DisambiguationDraft.pattern_of_add {id : String} {draft draft' : DisambiguationDraft}
    {entry : DisambiguationEntry} (h : draft.add id entry = .ok draft') :
    draft'.pattern = draft.pattern ∨
      ∃ q, (∃ p, entry = .pattern p ∧ p.define = .ok q) ∧ draft'.pattern = some q := by
  cases entry with
  | pattern p =>
    obtain ⟨q, hq, h⟩ := bind_eq_ok.mp h
    exact Or.inr ⟨q, ⟨p, rfl, hq⟩, pure_eq_ok.mp h ▸ rfl⟩
  | action form =>
    simp only [DisambiguationDraft.add] at h
    split at h
    · obtain ⟨_, hreject, -⟩ := bind_eq_ok.mp h
      exact nomatch hreject
    · obtain ⟨_, -, h⟩ := bind_eq_ok.mp h
      exact Or.inl (pure_eq_ok.mp h ▸ rfl)
  | reading attributes => exact Or.inl (Except.ok.inj h ▸ rfl)
  | sample form =>
    obtain ⟨_, -, h⟩ := bind_eq_ok.mp h
    exact Or.inl (pure_eq_ok.mp h ▸ rfl)

theorem RuleForm.exists_draft {form : RuleForm} {group : Option GroupHead} {number : Nat} {d : RuleDef}
    (h : form.define group number = .ok d) :
    ∃ draft, form.entries.foldlM RuleDraft.add {} = .ok draft ∧ draft.pattern = some d.pattern := by
  obtain ⟨id, -, h⟩ := bind_eq_ok.mp h
  obtain ⟨draft, hdraft, h⟩ := bind_eq_ok.mp h
  split at h
  case h_1 => exact nomatch h
  case h_2 =>
    split at h
    case h_1 => exact nomatch h
    case h_2 q hq => exact ⟨draft, hdraft, pure_eq_ok.mp h ▸ hq⟩

theorem DisambiguationForm.exists_draft {form : DisambiguationForm} {d : DisambiguationDef}
    (h : form.define = .ok d) :
    ∃ draft, form.entries.foldlM (DisambiguationDraft.add form.id) {} = .ok draft ∧ draft.pattern = some d.pattern := by
  obtain ⟨draft, hdraft, h⟩ := bind_eq_ok.mp h
  split at h
  case h_1 => exact nomatch h
  case h_2 => exact nomatch h
  case h_3 q action hq _ => exact ⟨draft, hdraft, pure_eq_ok.mp h ▸ hq⟩

theorem RuleForm.exists_pattern {form : RuleForm} {group : Option GroupHead} {number : Nat} {d : RuleDef}
    (h : form.define group number = .ok d) :
    ∃ p, RuleEntry.pattern p ∈ form.entries ∧ p.define = .ok d.pattern := by
  obtain ⟨draft, hdraft, hpattern⟩ := form.exists_draft h
  obtain ⟨_, hentry, p, rfl, hp⟩ := exists_source_of_foldlM_eq_ok hdraft RuleDraft.pattern
    (fun entry q => ∃ p, entry = .pattern p ∧ p.define = .ok q) rfl (fun _ _ _ => RuleDraft.pattern_of_add) hpattern
  exact ⟨p, hentry, hp⟩

theorem DisambiguationForm.exists_pattern {form : DisambiguationForm} {d : DisambiguationDef}
    (h : form.define = .ok d) :
    ∃ p, DisambiguationEntry.pattern p ∈ form.entries ∧ p.define = .ok d.pattern := by
  obtain ⟨draft, hdraft, hpattern⟩ := form.exists_draft h
  obtain ⟨_, hentry, p, rfl, hp⟩ := exists_source_of_foldlM_eq_ok hdraft DisambiguationDraft.pattern
    (fun entry q => ∃ p, entry = .pattern p ∧ p.define = .ok q) rfl (fun _ _ _ => DisambiguationDraft.pattern_of_add)
    hpattern
  exact ⟨p, hentry, hp⟩

/-- A pattern that another one takes the place of makes sense too. -/
theorem RuleForm.exists_define {form : RuleForm} {group : Option GroupHead} {number : Nat} {d : RuleDef}
    (h : form.define group number = .ok d) {p : PatternForm} (hp : RuleEntry.pattern p ∈ form.entries) :
    ∃ q, p.define = .ok q := by
  obtain ⟨draft, hdraft, -⟩ := form.exists_draft h
  obtain ⟨_, _, hadd⟩ := exists_step_of_foldlM_eq_ok hdraft hp
  obtain ⟨q, hq, -⟩ := bind_eq_ok.mp hadd
  exact ⟨q, hq⟩

theorem DisambiguationForm.exists_define {form : DisambiguationForm} {d : DisambiguationDef} (h : form.define = .ok d)
    {p : PatternForm} (hp : DisambiguationEntry.pattern p ∈ form.entries) : ∃ q, p.define = .ok q := by
  obtain ⟨draft, hdraft, -⟩ := form.exists_draft h
  obtain ⟨_, _, hadd⟩ := exists_step_of_foldlM_eq_ok hdraft hp
  obtain ⟨q, hq, -⟩ := bind_eq_ok.mp hadd
  exact ⟨q, hq⟩

theorem forall₂_of_defineGroup {head : GroupHead} {number : Nat} {forms : List RuleForm} {rules : List RuleDef}
    (h : defineGroup head number forms = .ok rules) :
    List.Forall₂ (fun form d => ∃ number, RuleForm.define form (some head) number = .ok d) forms rules := by
  induction forms generalizing number rules with
  | nil =>
    obtain rfl := Except.ok.inj h
    exact .nil
  | cons form rest ih =>
    rw [defineGroup] at h
    obtain ⟨r, hr, h⟩ := bind_eq_ok.mp h
    obtain ⟨rs, hrs, h⟩ := bind_eq_ok.mp h
    obtain rfl := pure_eq_ok.mp h
    exact .cons ⟨number, hr⟩ (ih hrs)

/-- A form that is added to a file makes sense. -/
theorem Form.isAccepted_of_addForm {form : Form} {file file' : RuleFile} (h : addForm file form = .ok file') :
    form.IsAccepted := by
  cases form with
  | feature f =>
    obtain ⟨q, hq, -⟩ := bind_eq_ok.mp h
    exact ⟨fun _ hp => hp.elim, (fun _ heq => nomatch heq), fun _ heq => Form.feature.inj heq ▸ ⟨q, hq⟩⟩
  | phrase p =>
    obtain ⟨q, hq, -⟩ := bind_eq_ok.mp h
    exact ⟨fun _ hp => hp.elim, fun _ heq => Form.phrase.inj heq ▸ ⟨q, hq⟩, fun _ heq => nomatch heq⟩
  | group id description rules =>
    obtain ⟨rs, hrs, -⟩ := bind_eq_ok.mp h
    refine ⟨fun p hp => ?_, (fun _ heq => nomatch heq), fun _ heq => nomatch heq⟩
    obtain ⟨r, hr, hentry⟩ := hp
    obtain ⟨d, -, _, hd⟩ := exists_of_mem_left (forall₂_of_defineGroup hrs) hr
    exact r.exists_define hd hentry
  | rule r =>
    obtain ⟨d, hd, -⟩ := bind_eq_ok.mp h
    exact ⟨fun _ hp => r.exists_define hd hp, (fun _ heq => nomatch heq), fun _ heq => nomatch heq⟩
  | disambiguation form =>
    obtain ⟨d, hd, -⟩ := bind_eq_ok.mp h
    exact ⟨fun _ hp => form.exists_define hd hp, (fun _ heq => nomatch heq), fun _ heq => nomatch heq⟩

theorem isAccepted_of_ofForms {forms : List Form} {file : RuleFile} (h : RuleFile.ofForms forms = .ok file) :
    ∀ form ∈ forms, form.IsAccepted := by
  intro form hform
  obtain ⟨_, _, hadd⟩ := exists_step_of_foldlM_eq_ok h hform
  exact Form.isAccepted_of_addForm hadd

end Source

open Source

/-- The definitions of a file are those of forms. -/
structure RuleFile.IsDefinedBy (forms : List Form) (file : RuleFile) : Prop where
  features : ∀ f ∈ file.features, ∃ form, Form.feature form ∈ forms ∧ form.define = .ok f
  phrases : ∀ p ∈ file.phrases, ∃ form, Form.phrase form ∈ forms ∧ form.define = .ok p
  rules : ∀ d ∈ file.rules, ∃ form ∈ forms, ∃ p, form.HasPattern p ∧ p.define = .ok d.pattern
  disambiguations : ∀ d ∈ file.disambiguations, ∃ form ∈ forms, ∃ p, form.HasPattern p ∧ p.define = .ok d.pattern

theorem RuleFile.IsDefinedBy.addForm {forms : List Form} {file file' : RuleFile} (h : file.IsDefinedBy forms)
    {form : Form} (hform : form ∈ forms) (hadd : Source.addForm file form = .ok file') : file'.IsDefinedBy forms := by
  cases form with
  | feature f =>
    obtain ⟨q, hq, hadd⟩ := bind_eq_ok.mp hadd
    obtain rfl := pure_eq_ok.mp hadd
    refine ⟨List.forall_mem_append.mpr ⟨h.features, List.forall_mem_singleton.mpr ⟨f, hform, hq⟩⟩, h.phrases, h.rules,
      h.disambiguations⟩
  | phrase p =>
    obtain ⟨q, hq, hadd⟩ := bind_eq_ok.mp hadd
    obtain rfl := pure_eq_ok.mp hadd
    refine ⟨h.features, List.forall_mem_append.mpr ⟨h.phrases, List.forall_mem_singleton.mpr ⟨p, hform, hq⟩⟩, h.rules,
      h.disambiguations⟩
  | group id description rules =>
    obtain ⟨rs, hrs, hadd⟩ := bind_eq_ok.mp hadd
    obtain rfl := pure_eq_ok.mp hadd
    refine ⟨h.features, h.phrases, List.forall_mem_append.mpr ⟨h.rules, fun d hd => ?_⟩, h.disambiguations⟩
    obtain ⟨r, hr, _, hd⟩ := exists_of_mem_right (forall₂_of_defineGroup hrs) hd
    obtain ⟨p, hp, hdefine⟩ := r.exists_pattern hd
    exact ⟨_, hform, p, ⟨r, hr, hp⟩, hdefine⟩
  | rule r =>
    obtain ⟨d, hd, hadd⟩ := bind_eq_ok.mp hadd
    obtain rfl := pure_eq_ok.mp hadd
    obtain ⟨p, hp, hdefine⟩ := r.exists_pattern hd
    exact ⟨h.features, h.phrases,
      List.forall_mem_append.mpr ⟨h.rules, List.forall_mem_singleton.mpr ⟨_, hform, p, hp, hdefine⟩⟩, h.disambiguations⟩
  | disambiguation form =>
    obtain ⟨d, hd, hadd⟩ := bind_eq_ok.mp hadd
    obtain rfl := pure_eq_ok.mp hadd
    obtain ⟨p, hp, hdefine⟩ := form.exists_pattern hd
    exact ⟨h.features, h.phrases, h.rules,
      List.forall_mem_append.mpr ⟨h.disambiguations, List.forall_mem_singleton.mpr ⟨_, hform, p, hp, hdefine⟩⟩⟩

theorem RuleFile.isDefinedBy_of_ofForms {forms : List Form} {file : RuleFile} (h : RuleFile.ofForms forms = .ok file) :
    file.IsDefinedBy forms :=
  of_foldlM_eq_ok (RuleFile.IsDefinedBy forms) h
    ⟨List.forall_mem_nil _, List.forall_mem_nil _, List.forall_mem_nil _, List.forall_mem_nil _⟩
    fun _ _ _ hform hkept hadd => hkept.addForm hform hadd

theorem RuleFile.read_of_readForms {source : String} {forms : List Form} (h : readForms source = some forms) :
    RuleFile.read source = RuleFile.ofForms forms := by
  rw [RuleFile.read, h]

theorem RuleFile.read_eq_ok_iff {source : String} {file : RuleFile} :
    RuleFile.read source = .ok file ↔ ∃ forms, readForms source = some forms ∧ RuleFile.ofForms forms = .ok file := by
  unfold RuleFile.read
  split
  case h_1 hnone => exact iff_of_false (fun h => nomatch h) fun ⟨_, hforms, _⟩ => nomatch hnone.symm.trans hforms
  case h_2 forms hforms => simp [hforms]

end GrammarCheck
