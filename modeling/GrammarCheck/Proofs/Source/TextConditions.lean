import GrammarCheck.Proofs.Source.Attributes
import Mathlib

/-! Text conditions. A setting of the text or of the base form is refused behind another text condition. A bare string
is not: it takes the place of the text condition before it. -/

namespace GrammarCheck

open Success

/-- The text that a condition asks for, and whether of the base form. -/
def ConditionDef.textCondition (c : ConditionDef) : Option (Value × Bool) := c.text.map (·, c.inflected)

namespace Source

/-- The text that an attribute asks for, and whether of the base form. -/
def Attribute.textCondition : Attribute → Option (Value × Bool)
  | setting .text op value _ => some (op.value value, false)
  | setting .base op value _ => some (op.value value, true)
  | bareText text _ => some (.literal text, false)
  | _ => none

def lastText (attributes : List Attribute) : Option (Value × Bool) :=
  (attributes.filterMap Attribute.textCondition).getLast?

/-- A setting of the text or of the base form stands behind another text condition. -/
def SetsTextAgain (attributes : List Attribute) : Prop :=
  ∃ front key op value location back, attributes = front ++ .setting key op value location :: back ∧
    (key = .text ∨ key = .base) ∧ ∃ a ∈ front, a.textCondition.isSome

/-- A token and its exceptions ask for the last text that is written in each. -/
structure TokenForm.KeepsLastText (form : TokenForm) (t : TokenDef) : Prop where
  location : t.location = form.location
  condition : t.condition.textCondition = lastText form.attributes
  exceptions : List.Forall₂ (fun given e => e.scope = given.1 ∧ e.condition.textCondition = lastText given.2)
    (form.attributes.filterMap Attribute.exception?) t.exceptions

/-- The types of a feature ask for the last text that is written in each. -/
structure FeatureForm.KeepsLastText (form : FeatureForm) (f : FeatureDef) : Prop where
  name : f.name = form.name
  location : f.location = form.location
  types : List.Forall₂ (fun given type => type.1 = given.1 ∧ type.2.textCondition = lastText given.2) form.types f.types

theorem applySetting_of_text {c : ConditionDef} (hc : c.textCondition.isSome) {key : Key}
    (hkey : key = .text ∨ key = .base) (op : Operator) (value : String) (location : Location) :
    applySetting c key op value location = reject location .secondText := by
  have htext : c.text.isSome := by simpa [ConditionDef.textCondition] using hc
  rcases hkey with rfl | rfl
  · exact if_pos htext
  · exact if_pos htext

theorem textCondition_of_applySetting {c : ConditionDef} {key : Key} {op : Operator} {value : String}
    {location : Location} {c' : Option ConditionDef} (h : applySetting c key op value location = .ok c') :
    (c'.getD c).textCondition = (Attribute.setting key op value location).textCondition.or c.textCondition := by
  cases key with
  | text =>
    simp only [applySetting] at h
    split at h
    · cases h
    · exact Except.ok.inj h ▸ rfl
  | base =>
    simp only [applySetting] at h
    split at h
    · cases h
    · exact Except.ok.inj h ▸ rfl
  | ref =>
    obtain ⟨position, -, h⟩ := bind_eq_ok.mp h
    exact pure_eq_ok.mp h ▸ rfl
  | space =>
    obtain ⟨space, -, h⟩ := bind_eq_ok.mp h
    exact pure_eq_ok.mp h ▸ rfl
  | tag => exact Except.ok.inj h ▸ rfl
  | min => exact Except.ok.inj h ▸ rfl
  | max => exact Except.ok.inj h ▸ rfl
  | skip => exact Except.ok.inj h ▸ rfl

/-- A text condition takes the place of the one before it. -/
theorem textCondition_of_applyAttribute {c : ConditionDef} {a : Attribute} {c' : Option ConditionDef}
    (h : applyAttribute c a = .ok c') : (c'.getD c).textCondition = a.textCondition.or c.textCondition := by
  cases a with
  | setting key op value location => exact textCondition_of_applySetting h
  | exception scope conditions location => exact Except.ok.inj h ▸ rfl
  | negation location => exact Except.ok.inj h ▸ rfl
  | caseFlag location => exact Except.ok.inj h ▸ rfl
  | bareText text location => exact Except.ok.inj h ▸ rfl

section Fold

variable {β : Type} {f : β → Attribute → Checked β} (condition : β → ConditionDef)

/-- Attributes in order leave the last text condition. -/
theorem textCondition_of_foldlM
    (hstep : ∀ b a b', f b a = .ok b' →
      ∃ c, applyAttribute (condition b) a = .ok c ∧ condition b' = c.getD (condition b))
    {attributes : List Attribute} {b b' : β} (h : attributes.foldlM f b = .ok b') :
    (condition b').textCondition = (lastText attributes).or (condition b).textCondition := by
  refine getLast?_of_foldlM_eq_ok (fun b => (condition b).textCondition) Attribute.textCondition (fun b a b' hown => ?_)
    h
  obtain ⟨c, hc, hb'⟩ := hstep b a b' hown
  rw [hb']
  exact textCondition_of_applyAttribute hc

theorem not_setsTextAgain_of_foldlM
    (hstep : ∀ b a b', f b a = .ok b' →
      ∃ c, applyAttribute (condition b) a = .ok c ∧ condition b' = c.getD (condition b))
    {attributes : List Attribute} {b b' : β} (h : attributes.foldlM f b = .ok b') : ¬SetsTextAgain attributes := by
  rintro ⟨front, key, op, value, location, back, rfl, hkey, a, ha, htext⟩
  obtain ⟨b₁, hfront, hback⟩ := foldlM_append_eq_ok.mp h
  rw [List.foldlM_cons] at hback
  obtain ⟨b₂, hsetting, -⟩ := bind_eq_ok.mp hback
  -- what stands in front has left a text, so that the setting finds one
  have hsome : (condition b₁).textCondition.isSome := by
    obtain ⟨text, htext⟩ := Option.isSome_iff_exists.mp htext
    have hne : front.filterMap Attribute.textCondition ≠ [] :=
      List.ne_nil_of_mem (List.mem_filterMap.mpr ⟨a, ha, htext⟩)
    rw [textCondition_of_foldlM condition hstep hfront, lastText, List.getLast?_eq_some_getLast hne]
    rfl
  obtain ⟨c, hc, -⟩ := hstep b₁ _ b₂ hsetting
  rw [applyAttribute, applySetting_of_text hsome hkey] at hc
  cases hc

end Fold

theorem exists_applyAttribute_of_applyCondition {fault : Fault} (c : ConditionDef) (a : Attribute) (c' : ConditionDef)
    (h : applyCondition fault c a = .ok c') : ∃ r, applyAttribute c a = .ok r ∧ c' = r.getD c :=
  ⟨some c', applyCondition_eq_ok h, rfl⟩

theorem textCondition_of_conditionOf {fault : Fault} {attributes : List Attribute} {c : ConditionDef}
    (h : conditionOf fault {} attributes = .ok c) : c.textCondition = lastText attributes := by
  rw [conditionOf_eq_foldlM] at h
  exact (textCondition_of_foldlM id exists_applyAttribute_of_applyCondition h).trans (Option.or_none ..)

theorem AreConditions.not_setsTextAgain {attributes : List Attribute} (h : AreConditions attributes) :
    ¬SetsTextAgain attributes := by
  obtain ⟨fault, c, h⟩ := h
  rw [conditionOf_eq_foldlM] at h
  exact not_setsTextAgain_of_foldlM id exists_applyAttribute_of_applyCondition h

theorem TokenForm.not_setsTextAgain_of_define {form : TokenForm} {t : TokenDef} (h : form.define = .ok t) :
    ¬SetsTextAgain form.attributes :=
  not_setsTextAgain_of_foldlM TokenDef.condition (fun _ _ _ hstep => (tokenStep_of_applyToToken hstep).condition) h

theorem TokenForm.keepsLastText_of_define {form : TokenForm} {t : TokenDef} (h : form.define = .ok t) :
    form.KeepsLastText t where
  location := location_of_define h
  condition := (textCondition_of_foldlM TokenDef.condition
    (fun _ _ _ hstep => (tokenStep_of_applyToToken hstep).condition) h).trans (Option.or_none ..)
  exceptions := (forall₂_of_define h).imp fun given e he => by
    obtain ⟨c, hc, he⟩ := bind_eq_ok.mp he
    obtain rfl := pure_eq_ok.mp he
    exact ⟨rfl, textCondition_of_conditionOf hc⟩

theorem FeatureForm.keepsLastText_of_define {form : FeatureForm} {f : FeatureDef} (h : form.define = .ok f) :
    form.KeepsLastText f := by
  obtain ⟨hname, hlocation, htypes⟩ := forall₂_of_define h
  exact ⟨hname, hlocation, htypes.imp fun _ _ htype => ⟨htype.1, textCondition_of_conditionOf htype.2⟩⟩

end Source

open Source

/-- No setting may give a text to a list of attributes that has one, but a bare string may take the place of it: in a file
that is read the last text condition of each list is the one that counts. -/
theorem RuleFile.lastText_of_read {source : String} {forms : List Form} (h : readForms source = some forms) :
    (∀ form ∈ forms, ∀ attributes, form.HasAttributes attributes → SetsTextAgain attributes →
      ∃ e, RuleFile.read source = .error e) ∧
    ∀ file, RuleFile.read source = .ok file →
      (∀ t, file.HasToken t → ∃ form ∈ forms, ∃ written, form.HasToken written ∧ written.KeepsLastText t) ∧
      ∀ f ∈ file.features, ∃ written, Form.feature written ∈ forms ∧ written.KeepsLastText f := by
  refine ⟨fun form hform attributes hattributes hagain => ?_, fun file hfile => ?_⟩
  · rcases hattributes with ⟨t, ht, rfl⟩ | hconditions
    · exact exists_error_of_hasToken h hform ht fun d hd => t.not_setsTextAgain_of_define hd hagain
    · exact exists_error_of_hasConditions h hform hconditions fun hown => hown.not_setsTextAgain hagain
  · rw [read_of_readForms h] at hfile
    have hdefined := isDefinedBy_of_ofForms hfile
    refine ⟨fun t ht => ?_, fun f hf => ?_⟩
    · obtain ⟨form, hform, written, hwritten, hdefine⟩ := hdefined.exists_token ht
      exact ⟨form, hform, written, hwritten, written.keepsLastText_of_define hdefine⟩
    · obtain ⟨written, hwritten, hdefine⟩ := hdefined.features f hf
      exact ⟨written, hwritten, written.keepsLastText_of_define hdefine⟩

namespace RuleFile

def textAgainInException : String :=
  "rule R \x7b pattern \x7b [pos=\"X\", except(\"a\", lemma~\"b\")] \x7d message \"m\"; \x7d"

def baseThenText : String := "rule R \x7b pattern \x7b [lemma=\"a\", \"b\"] \x7d message \"m\"; \x7d"

theorem lastText_of_read_baseThenText :
    (∃ e, RuleFile.read textAgainInException = .error e) ∧
      ∃ file t, RuleFile.read baseThenText = .ok file ∧ file.HasToken t ∧
        t.condition.textCondition = some (.literal "b", false) := by
  have hagain : readForms textAgainInException = some [.ofToken ⟨[.setting .tag .equal "X" ⟨1, 21⟩,
      .exception .current [.bareText "a" ⟨1, 37⟩, .setting .base .like "b" ⟨1, 42⟩] ⟨1, 30⟩], ⟨1, 20⟩⟩] := by cbv
  have hbase : readForms baseThenText =
      some [.ofToken ⟨[.setting .base .equal "a" ⟨1, 21⟩, .bareText "b" ⟨1, 32⟩], ⟨1, 20⟩⟩] := by cbv
  obtain ⟨file, hfile, ht⟩ := exists_read_of_readForms_ofToken hbase rfl
  refine ⟨?_, file, _, hfile, ht, ?_⟩
  · refine (lastText_of_read hagain).1 _ (List.mem_singleton_self _) _
      (Or.inr (Or.inl ⟨_, Form.hasToken_ofToken_iff.mpr rfl, .here (List.mem_cons_of_mem _ List.mem_cons_self)⟩)) ?_
    exact ⟨[.bareText "a" ⟨1, 37⟩], .base, .like, "b", ⟨1, 42⟩, [], rfl, Or.inr rfl, _, List.mem_cons_self, rfl⟩
  · obtain ⟨form, hform, written, hwritten, hkeeps⟩ := ((lastText_of_read hbase).2 file hfile).1 _ ht
    obtain rfl := List.mem_singleton.mp hform
    obtain rfl := Form.hasToken_ofToken_iff.mp hwritten
    exact hkeeps.condition

def twoTexts : String := "rule R \x7b pattern \x7b [\"a\", \"b\"] \x7d message \"m\"; \x7d"

/-- A token has two text conditions, and only the second one is left. -/
theorem read_twoTexts :
    ∃ forms form t file d, readForms twoTexts = some forms ∧ form ∈ forms ∧ form.HasToken t ∧
      t.attributes.filterMap Attribute.textCondition = [(.literal "a", false), (.literal "b", false)] ∧
      RuleFile.read twoTexts = .ok file ∧ file.HasToken d ∧
      d = { condition := { text := some (.literal "b") }, location := t.location } := by
  have hforms : readForms twoTexts =
      some [.ofToken ⟨[.bareText "a" ⟨1, 21⟩, .bareText "b" ⟨1, 26⟩], ⟨1, 20⟩⟩] := by cbv
  obtain ⟨file, hfile, hd⟩ := exists_read_of_readForms_ofToken hforms rfl
  exact ⟨_, _, _, file, _, hforms, List.mem_singleton_self _, Form.hasToken_ofToken_iff.mpr rfl, rfl, hfile, hd, rfl⟩

end RuleFile

end GrammarCheck
