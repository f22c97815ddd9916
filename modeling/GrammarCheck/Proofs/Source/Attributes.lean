import GrammarCheck.Proofs.Source.Origin

/-! The lists of attributes of a rule file: one for each token, one for each exception and one for each type of a
feature. In a file that is read each list makes sense by itself, and the tokens of the file are what the lists define. -/

namespace GrammarCheck

open Success

/-- The token stands in the item. -/
inductive PatternItem.HasToken (t : TokenDef) : PatternItem → Prop
  | tokens {group} (ht : t ∈ group.first :: group.others) : HasToken t (.tokens group)
  | marker {items item location} (hitem : item ∈ items) (h : HasToken t item) : HasToken t (.marker items location)
  | unify {features negate items item location} (hitem : item ∈ items) (h : HasToken t item) :
      HasToken t (.unify features negate items location)

/-- A token of the file. -/
def RuleFile.HasToken (t : TokenDef) (file : RuleFile) : Prop :=
  (∃ d ∈ file.rules, ∃ i ∈ d.pattern.items, i.HasToken t) ∨
    (∃ d ∈ file.disambiguations, ∃ i ∈ d.pattern.items, i.HasToken t) ∨
    ∃ p ∈ file.phrases, ∃ items ∈ p.alternatives, ∃ i ∈ items, i.HasToken t

namespace Source

/-- An exception among the attributes, or in one of them, has the conditions. -/
inductive HasException (conditions : List Attribute) : List Attribute → Prop
  | here {attributes scope location} (h : .exception scope conditions location ∈ attributes) :
      HasException conditions attributes
  | inside {attributes scope outer location} (hmem : .exception scope outer location ∈ attributes)
      (h : HasException conditions outer) : HasException conditions attributes

inductive ItemForm.HasToken (t : TokenForm) : ItemForm → Prop
  | tokens {first others} (ht : t ∈ first :: others) : HasToken t (.tokens first others)
  | marker {items item location} (hitem : item ∈ items) (h : HasToken t item) : HasToken t (.marker items location)
  | unify {negate features items item location} (hitem : item ∈ items) (h : HasToken t item) :
      HasToken t (.unify negate features items location)

def Form.HasToken (t : TokenForm) (form : Form) : Prop :=
  (∃ p, form.HasPattern p ∧ ∃ i ∈ p.items, i.HasToken t) ∨
    ∃ p, form = .phrase p ∧ ∃ items ∈ p.alternatives, ∃ i ∈ items, i.HasToken t

/-- The conditions of an exception or of a type of a feature. -/
def Form.HasConditions (conditions : List Attribute) (form : Form) : Prop :=
  (∃ t, form.HasToken t ∧ HasException conditions t.attributes) ∨
    ∃ f, form = .feature f ∧ ∃ type ∈ f.types, type.2 = conditions ∨ HasException conditions type.2

/-- The attributes of a token, of an exception or of a type. -/
def Form.HasAttributes (attributes : List Attribute) (form : Form) : Prop :=
  (∃ t, form.HasToken t ∧ t.attributes = attributes) ∨ form.HasConditions attributes

def Attribute.exception? : Attribute → Option (Scope × List Attribute)
  | exception scope conditions _ => some (scope, conditions)
  | _ => none

/-! ### Lists that make sense -/

/-- The condition after an attribute that has to be one of conditions. -/
def applyCondition (fault : Fault) (c : ConditionDef) (a : Attribute) : Checked ConditionDef := do
  match ← applyAttribute c a with
  | some c => .ok c
  | none => reject a.location fault

theorem conditionOf_eq_foldlM (fault : Fault) (c : ConditionDef) (attributes : List Attribute) :
    conditionOf fault c attributes = attributes.foldlM (applyCondition fault) c := by
  induction attributes generalizing c with
  | nil => rfl
  | cons a rest ih =>
    simp only [conditionOf, List.foldlM_cons, applyCondition, ih, bind_assoc]
    refine bind_congr fun r => ?_
    cases r <;> rfl

theorem applyCondition_eq_ok {fault : Fault} {c c' : ConditionDef} {a : Attribute}
    (h : applyCondition fault c a = .ok c') : applyAttribute c a = .ok (some c') := by
  obtain ⟨r, hr, h⟩ := bind_eq_ok.mp h
  cases r with
  | none => cases h
  | some c₁ => exact Except.ok.inj h ▸ hr

/-- A list of conditions that an exception or a type is made of. -/
def AreConditions (conditions : List Attribute) : Prop := ∃ fault c, conditionOf fault {} conditions = .ok c

theorem AreConditions.exists_step {conditions : List Attribute} (h : AreConditions conditions) {a : Attribute}
    (ha : a ∈ conditions) : ∃ c c', applyAttribute c a = .ok (some c') := by
  obtain ⟨fault, c, h⟩ := h
  rw [conditionOf_eq_foldlM] at h
  obtain ⟨c₁, c₂, hstep⟩ := exists_step_of_foldlM_eq_ok h ha
  exact ⟨c₁, c₂, applyCondition_eq_ok hstep⟩

theorem AreConditions.not_hasException {conditions inner : List Attribute} (h : AreConditions conditions) :
    ¬HasException inner conditions := by
  intro hexception
  cases hexception with
  | here hmem =>
    obtain ⟨_, _, hstep⟩ := h.exists_step hmem
    cases hstep
  | inside hmem _ =>
    obtain ⟨_, _, hstep⟩ := h.exists_step hmem
    cases hstep

theorem areConditions_of_exceptionOf {scope : Scope} {conditions : List Attribute} {e : ExceptionDef}
    (h : exceptionOf scope conditions = .ok e) : AreConditions conditions := by
  obtain ⟨c, hc, -⟩ := bind_eq_ok.mp h
  exact ⟨_, c, hc⟩

/-- What one attribute does to a token, its counts apart. -/
structure TokenStep (t : TokenDef) (a : Attribute) (t' : TokenDef) : Prop where
  condition : ∃ c, applyAttribute t.condition a = .ok c ∧ t'.condition = c.getD t.condition
  exceptions : ∃ new, t'.exceptions = t.exceptions ++ new ∧
    List.Forall₂ (fun given e => exceptionOf given.1 given.2 = .ok e) a.exception?.toList new
  location : t'.location = t.location

theorem tokenStep_of_applyToToken {t t' : TokenDef} {a : Attribute} (h : applyToToken t a = .ok t') :
    TokenStep t a t' := by
  have hcondition (hnone : a.exception? = none)
      (h : (do let c ← applyAttribute t.condition a; pure { t with condition := c.getD t.condition }) = .ok t') :
      TokenStep t a t' := by
    obtain ⟨c, hc, h⟩ := bind_eq_ok.mp h
    obtain rfl := pure_eq_ok.mp h
    exact ⟨⟨c, hc, rfl⟩, ⟨[], (List.append_nil _).symm, hnone ▸ .nil⟩, rfl⟩
  have hcounts {key : Key} {op : Operator} {value : String} {location : Location}
      (ha : a = .setting key op value location)
      (hkey : applySetting t.condition key op value location = .ok none) {t₁ : TokenDef} (h : t₁ = t')
      (hsame : (t₁.condition, t₁.exceptions, t₁.location) = (t.condition, t.exceptions, t.location)) :
      TokenStep t a t' := by
    simp only [Prod.mk.injEq] at hsame
    obtain ⟨hown, hexceptions, hlocation⟩ := h ▸ hsame
    subst ha
    exact ⟨⟨none, hkey, hown⟩, ⟨[], (List.append_nil _).symm ▸ hexceptions, .nil⟩, hlocation⟩
  cases a with
  | exception scope conditions location =>
    obtain ⟨e, he, h⟩ := bind_eq_ok.mp h
    obtain rfl := pure_eq_ok.mp h
    exact ⟨⟨none, rfl, rfl⟩, ⟨[e], rfl, .cons he .nil⟩, rfl⟩
  | setting key op value location =>
    cases key with
    | min =>
      obtain ⟨n, -, h⟩ := bind_eq_ok.mp h
      exact hcounts rfl rfl (pure_eq_ok.mp h) rfl
    | max =>
      obtain ⟨b, -, h⟩ := bind_eq_ok.mp h
      exact hcounts rfl rfl (pure_eq_ok.mp h) rfl
    | skip =>
      obtain ⟨b, -, h⟩ := bind_eq_ok.mp h
      exact hcounts rfl rfl (pure_eq_ok.mp h) rfl
    | text => exact hcondition rfl h
    | base => exact hcondition rfl h
    | tag => exact hcondition rfl h
    | ref => exact hcondition rfl h
    | space => exact hcondition rfl h
  | negation location => exact hcondition rfl h
  | caseFlag location => exact hcondition rfl h
  | bareText text location => exact hcondition rfl h

/-- The conditions of a token's exceptions are what their lists say. -/
theorem TokenForm.forall₂_of_define {form : TokenForm} {t : TokenDef} (h : form.define = .ok t) :
    List.Forall₂ (fun given e => exceptionOf given.1 given.2 = .ok e) (form.attributes.filterMap Attribute.exception?)
      t.exceptions := by
  obtain ⟨new, hnew, hall⟩ := forall₂_of_foldlM_eq_ok TokenDef.exceptions Attribute.exception? _
    (fun _ _ _ hstep => (tokenStep_of_applyToToken hstep).exceptions) h
  exact (List.nil_append new ▸ hnew) ▸ hall

theorem TokenForm.location_of_define {form : TokenForm} {t : TokenDef} (h : form.define = .ok t) :
    t.location = form.location :=
  of_foldlM_eq_ok (fun t => t.location = form.location) h rfl fun _ _ _ _ hkept hstep =>
    (tokenStep_of_applyToToken hstep).location.trans hkept

theorem TokenForm.areConditions_of_define {form : TokenForm} {t : TokenDef} (h : form.define = .ok t)
    {conditions : List Attribute} (hexception : HasException conditions form.attributes) :
    AreConditions conditions := by
  have hown {scope : Scope} {outer : List Attribute} {location : Location}
      (hmem : .exception scope outer location ∈ form.attributes) : AreConditions outer := by
    obtain ⟨_, _, hstep⟩ := exists_step_of_foldlM_eq_ok h hmem
    obtain ⟨e, he, -⟩ := bind_eq_ok.mp hstep
    exact areConditions_of_exceptionOf he
  cases hexception with
  | here hmem => exact hown hmem
  | inside hmem hinner => exact absurd hinner (hown hmem).not_hasException

/-! ### Items and the forms that define them -/

theorem defineItems_eq_mapM (forms : List ItemForm) : defineItems forms = forms.mapM ItemForm.define := by
  induction forms with
  | nil => rfl
  | cons form rest ih => rw [defineItems, ih, List.mapM_cons]

theorem forall₂_of_defineItems {forms : List ItemForm} {items : List PatternItem} (h : defineItems forms = .ok items) :
    List.Forall₂ (fun form item => ItemForm.define form = .ok item) forms items :=
  forall₂_of_mapM_eq_ok (defineItems_eq_mapM forms ▸ h)

/-- An item is defined part by part. -/
inductive ItemForm.Makes : ItemForm → PatternItem → Prop
  | tokens {first others group}
      (h : List.Forall₂ (fun form t => TokenForm.define form = .ok t) (first :: others) (group.first :: group.others)) :
      Makes (.tokens first others) (.tokens group)
  | phrase {name location} : Makes (.phrase name location) (.phrase name location)
  | marker {forms items location} (h : List.Forall₂ (fun form item => ItemForm.define form = .ok item) forms items) :
      Makes (.marker forms location) (.marker items location)
  | unify {negate features forms items location}
      (h : List.Forall₂ (fun form item => ItemForm.define form = .ok item) forms items) :
      Makes (.unify negate features forms location) (.unify features negate items location)

theorem ItemForm.makes_of_define {form : ItemForm} {item : PatternItem} (h : form.define = .ok item) :
    form.Makes item := by
  cases form with
  | tokens first others =>
    rw [ItemForm.define] at h
    obtain ⟨t, ht, h⟩ := bind_eq_ok.mp h
    obtain ⟨ts, hts, h⟩ := bind_eq_ok.mp h
    obtain rfl := pure_eq_ok.mp h
    exact .tokens (.cons ht (forall₂_of_mapM_eq_ok hts))
  | phrase name location =>
    rw [ItemForm.define] at h
    exact Except.ok.inj h ▸ .phrase
  | marker forms location =>
    rw [ItemForm.define] at h
    obtain ⟨items, hitems, h⟩ := bind_eq_ok.mp h
    exact pure_eq_ok.mp h ▸ .marker (forall₂_of_defineItems hitems)
  | unify negate features forms location =>
    rw [ItemForm.define] at h
    obtain ⟨items, hitems, h⟩ := bind_eq_ok.mp h
    exact pure_eq_ok.mp h ▸ .unify (forall₂_of_defineItems hitems)

theorem ItemForm.HasToken.exists_define {t : TokenForm} {form : ItemForm} (h : form.HasToken t) {item : PatternItem}
    (hdefine : form.define = .ok item) : ∃ d, t.define = .ok d := by
  induction h generalizing item with
  | tokens ht =>
    cases makes_of_define hdefine with
    | tokens hall =>
      obtain ⟨d, -, hd⟩ := exists_of_mem_left hall ht
      exact ⟨d, hd⟩
  | marker hitem _ ih =>
    cases makes_of_define hdefine with
    | marker hall =>
      obtain ⟨_, -, hinner⟩ := exists_of_mem_left hall hitem
      exact ih hinner
  | unify hitem _ ih =>
    cases makes_of_define hdefine with
    | unify hall =>
      obtain ⟨_, -, hinner⟩ := exists_of_mem_left hall hitem
      exact ih hinner

theorem ItemForm.exists_token {d : TokenDef} {item : PatternItem} (h : item.HasToken d) {form : ItemForm}
    (hdefine : form.define = .ok item) : ∃ t, form.HasToken t ∧ t.define = .ok d := by
  induction h generalizing form with
  | tokens ht =>
    cases makes_of_define hdefine with
    | tokens hall =>
      obtain ⟨t, hmem, hd⟩ := exists_of_mem_right hall ht
      exact ⟨t, .tokens hmem, hd⟩
  | marker hitem _ ih =>
    cases makes_of_define hdefine with
    | marker hall =>
      obtain ⟨_, hmem, hinner⟩ := exists_of_mem_right hall hitem
      obtain ⟨t, ht, hd⟩ := ih hinner
      exact ⟨t, .marker hmem ht, hd⟩
  | unify hitem _ ih =>
    cases makes_of_define hdefine with
    | unify hall =>
      obtain ⟨_, hmem, hinner⟩ := exists_of_mem_right hall hitem
      obtain ⟨t, ht, hd⟩ := ih hinner
      exact ⟨t, .unify hmem ht, hd⟩

theorem PatternForm.forall₂_of_define {form : PatternForm} {d : PatternDef} (h : form.define = .ok d) :
    List.Forall₂ (fun form item => ItemForm.define form = .ok item) form.items d.items := by
  obtain ⟨items, hitems, h⟩ := bind_eq_ok.mp h
  exact pure_eq_ok.mp h ▸ forall₂_of_defineItems hitems

theorem PhraseForm.forall₂_of_define {form : PhraseForm} {d : PhraseDef} (h : form.define = .ok d) :
    List.Forall₂ (List.Forall₂ fun form item => ItemForm.define form = .ok item) form.alternatives d.alternatives := by
  obtain ⟨alternatives, halternatives, h⟩ := bind_eq_ok.mp h
  exact pure_eq_ok.mp h ▸ (forall₂_of_mapM_eq_ok halternatives).imp fun _ _ => forall₂_of_defineItems

/-- The types of a feature are what their lists of attributes say. -/
theorem FeatureForm.forall₂_of_define {form : FeatureForm} {d : FeatureDef} (h : form.define = .ok d) :
    d.name = form.name ∧ d.location = form.location ∧
      List.Forall₂ (fun written type => type.1 = written.1 ∧ conditionOf .notConditionInType {} written.2 = .ok type.2)
        form.types d.types := by
  obtain ⟨types, htypes, h⟩ := bind_eq_ok.mp h
  obtain rfl := pure_eq_ok.mp h
  refine ⟨rfl, rfl, (forall₂_of_mapM_eq_ok htypes).imp fun written type hwritten => ?_⟩
  obtain ⟨c, hc, hwritten⟩ := bind_eq_ok.mp hwritten
  exact pure_eq_ok.mp hwritten ▸ ⟨rfl, hc⟩

theorem Form.IsAccepted.exists_define {form : Form} (h : form.IsAccepted) {t : TokenForm} (ht : form.HasToken t) :
    ∃ d, t.define = .ok d := by
  rcases ht with ⟨p, hp, i, hi, ht⟩ | ⟨p, rfl, items, hitems, i, hi, ht⟩
  · obtain ⟨q, hq⟩ := h.pattern p hp
    obtain ⟨_, -, hdefine⟩ := exists_of_mem_left (PatternForm.forall₂_of_define hq) hi
    exact ht.exists_define hdefine
  · obtain ⟨q, hq⟩ := h.phrase p rfl
    obtain ⟨_, -, hall⟩ := exists_of_mem_left (PhraseForm.forall₂_of_define hq) hitems
    obtain ⟨_, -, hdefine⟩ := exists_of_mem_left hall hi
    exact ht.exists_define hdefine

theorem Form.IsAccepted.areConditions {form : Form} (h : form.IsAccepted) {conditions : List Attribute}
    (hconditions : form.HasConditions conditions) : AreConditions conditions := by
  rcases hconditions with ⟨t, ht, hexception⟩ | ⟨f, rfl, type, htype, hconditions⟩
  · obtain ⟨d, hd⟩ := h.exists_define ht
    exact t.areConditions_of_define hd hexception
  · obtain ⟨d, hd⟩ := h.feature f rfl
    obtain ⟨c, -, -, hc⟩ := exists_of_mem_left (FeatureForm.forall₂_of_define hd).2.2 htype
    have hown : AreConditions type.2 := ⟨_, _, hc⟩
    rcases hconditions with rfl | hexception
    · exact hown
    · exact absurd hexception hown.not_hasException

end Source

open Source

/-- Every token of a file is what a token form defines. -/
theorem RuleFile.IsDefinedBy.exists_token {forms : List Form} {file : RuleFile} (h : file.IsDefinedBy forms)
    {d : TokenDef} (hd : file.HasToken d) : ∃ form ∈ forms, ∃ t, form.HasToken t ∧ t.define = .ok d := by
  have hpattern {form : Form} (hform : form ∈ forms) {p : PatternForm} (hp : form.HasPattern p) {q : PatternDef}
      (hq : p.define = .ok q) {i : PatternItem} (hi : i ∈ q.items) (hd : i.HasToken d) :
      ∃ form ∈ forms, ∃ t, form.HasToken t ∧ t.define = .ok d := by
    obtain ⟨written, hmem, hdefine⟩ := exists_of_mem_right (PatternForm.forall₂_of_define hq) hi
    obtain ⟨t, ht, htd⟩ := ItemForm.exists_token hd hdefine
    exact ⟨form, hform, t, Or.inl ⟨p, hp, written, hmem, ht⟩, htd⟩
  rcases hd with ⟨r, hr, i, hi, hd⟩ | ⟨r, hr, i, hi, hd⟩ | ⟨p, hp, items, hitems, i, hi, hd⟩
  · obtain ⟨form, hform, p, hp, hdefine⟩ := h.rules r hr
    exact hpattern hform hp hdefine hi hd
  · obtain ⟨form, hform, p, hp, hdefine⟩ := h.disambiguations r hr
    exact hpattern hform hp hdefine hi hd
  · obtain ⟨form, hform, hdefine⟩ := h.phrases p hp
    obtain ⟨alternative, halternative, hall⟩ := exists_of_mem_right (PhraseForm.forall₂_of_define hdefine) hitems
    obtain ⟨written, hmem, hdefine⟩ := exists_of_mem_right hall hi
    obtain ⟨t, ht, htd⟩ := ItemForm.exists_token hd hdefine
    exact ⟨_, hform, t, Or.inr ⟨form, rfl, alternative, halternative, written, hmem, ht⟩, htd⟩

/-- A file with a token that makes no sense is refused. -/
theorem RuleFile.exists_error_of_hasToken {source : String} {forms : List Form} (h : readForms source = some forms)
    {form : Form} (hform : form ∈ forms) {t : TokenForm} (ht : form.HasToken t) (hrefused : ∀ d, t.define ≠ .ok d) :
    ∃ e, RuleFile.read source = .error e := by
  rw [read_of_readForms h]
  cases hfile : RuleFile.ofForms forms with
  | error e => exact ⟨e, rfl⟩
  | ok file =>
    obtain ⟨d, hd⟩ := (isAccepted_of_ofForms hfile form hform).exists_define ht
    exact absurd hd (hrefused d)

/-- A file is refused if an exception or a type has something else than conditions. -/
theorem RuleFile.exists_error_of_hasConditions {source : String} {forms : List Form} (h : readForms source = some forms)
    {form : Form} (hform : form ∈ forms) {conditions : List Attribute} (hconditions : form.HasConditions conditions)
    (hrefused : ¬AreConditions conditions) : ∃ e, RuleFile.read source = .error e := by
  rw [read_of_readForms h]
  cases hfile : RuleFile.ofForms forms with
  | error e => exact ⟨e, rfl⟩
  | ok file => exact absurd ((isAccepted_of_ofForms hfile form hform).areConditions hconditions) hrefused

namespace Source

/-- A rule that looks for one token. -/
def Form.ofToken (t : TokenForm) : Form :=
  .rule ⟨some ("R", ⟨1, 6⟩), none, [.pattern ⟨false, [.tokens t []]⟩, .message "m"], .start⟩

theorem Form.hasToken_ofToken_iff {t t' : TokenForm} : (Form.ofToken t).HasToken t' ↔ t' = t := by
  constructor
  · rintro (⟨p, hp, i, hi, h⟩ | ⟨p, hp, -⟩)
    · have hp : RuleEntry.pattern p ∈ [.pattern ⟨false, [.tokens t []]⟩, .message "m"] := hp
      simp only [List.mem_cons, RuleEntry.pattern.injEq, reduceCtorEq, List.not_mem_nil, or_self, or_false] at hp
      subst hp
      obtain rfl := List.mem_singleton.mp hi
      cases h with
      | tokens h => exact List.mem_singleton.mp h
    · cases hp
  · rintro rfl
    exact Or.inl ⟨_, List.mem_cons_self, _, List.mem_singleton_self _, .tokens (List.mem_singleton_self _)⟩

theorem exists_read_of_readForms_ofToken {source : String} {t : TokenForm}
    (h : readForms source = some [Form.ofToken t]) {d : TokenDef} (hd : t.define = .ok d) :
    ∃ file, RuleFile.read source = .ok file ∧ file.HasToken d := by
  have hitem : (ItemForm.tokens t []).define = .ok (.tokens ⟨d, []⟩) := by
    rw [ItemForm.define, hd]
    rfl
  have hpattern : PatternForm.define ⟨false, [.tokens t []]⟩ = .ok ⟨false, [.tokens ⟨d, []⟩]⟩ := by
    rw [PatternForm.define, defineItems, hitem]
    rfl
  have hfile : RuleFile.ofForms [Form.ofToken t] = .ok
      { rules := [⟨"R", "1", "", ⟨false, [.tokens ⟨d, []⟩]⟩, "m", none, [], false, [], .start⟩] } := by
    rw [RuleFile.ofForms, List.foldlM_cons, Form.ofToken, addForm, RuleForm.define, List.foldlM_cons, RuleDraft.add,
      hpattern]
    rfl
  exact ⟨_, RuleFile.read_eq_ok_iff.mpr ⟨_, h, hfile⟩,
    Or.inl ⟨_, List.mem_singleton_self _, _, List.mem_singleton_self _, .tokens (List.mem_singleton_self _)⟩⟩

end Source

end GrammarCheck
