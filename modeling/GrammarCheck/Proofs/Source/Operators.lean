import GrammarCheck.Proofs.Source.Attributes
import Mathlib

/-! Operators of attributes that are no patterns. Counts and references take no operator but the equals sign, and a file
with another one is refused. Not so two kinds of settings: the operator is not looked at when the value says whether
blanks stand before the token, nor when a bound is a star. -/

namespace GrammarCheck

open Success

namespace Source

/-- The keys whose values are numbers, stars or truth values. -/
def Key.takesEqual : Key → Bool
  | text => false
  | base => false
  | tag => false
  | min => true
  | max => true
  | skip => true
  | ref => true
  | space => true

/-- The operator of the setting is not looked at. -/
def ignoresOperator (key : Key) (value : String) : Prop :=
  key = .space ∨ (key = .max ∨ key = .skip) ∧ value = "*"

instance (key : Key) (value : String) : Decidable (ignoresOperator key value) :=
  inferInstanceAs (Decidable (_ ∨ _ ∧ _))

/-! ### Operators that are refused -/

theorem countValue_ne_ok {location : Location} {op : Operator} (hop : op ≠ .equal) (value : String) (n : Nat) :
    countValue location op value ≠ .ok n := by
  rw [countValue, if_pos hop]
  intro h
  cases h

theorem boundValue_ne_ok {location : Location} {op : Operator} (hop : op ≠ .equal) {value : String}
    (hvalue : value ≠ "*") (b : Bound) : boundValue location op value ≠ .ok b := by
  rw [boundValue, if_neg hvalue, countValue, if_pos hop]
  intro h
  cases h

theorem applyToToken_setting_ne_ok {key : Key} (hkey : key.takesEqual) {op : Operator} (hop : op ≠ .equal)
    {value : String} (hread : ¬ignoresOperator key value) (location : Location) (t t' : TokenDef) :
    applyToToken t (.setting key op value location) ≠ .ok t' := by
  intro h
  cases key with
  | text => cases hkey
  | base => cases hkey
  | tag => cases hkey
  | min =>
    obtain ⟨n, hn, -⟩ := bind_eq_ok.mp h
    exact countValue_ne_ok hop value n hn
  | max =>
    obtain ⟨b, hb, -⟩ := bind_eq_ok.mp h
    exact boundValue_ne_ok hop (fun hstar => hread (Or.inr ⟨Or.inl rfl, hstar⟩)) b hb
  | skip =>
    obtain ⟨b, hb, -⟩ := bind_eq_ok.mp h
    exact boundValue_ne_ok hop (fun hstar => hread (Or.inr ⟨Or.inr rfl, hstar⟩)) b hb
  | ref =>
    obtain ⟨c, hc, -⟩ := bind_eq_ok.mp h
    obtain ⟨n, hn, -⟩ := bind_eq_ok.mp hc
    exact countValue_ne_ok hop value n hn
  | space => exact hread (Or.inl rfl)

/-- Exceptions and types have no counts, whatever the operator. -/
theorem applyAttribute_setting_ne_ok {key : Key} (hkey : key.takesEqual) (hspace : key ≠ .space) {op : Operator}
    (hop : op ≠ .equal) (value : String) (location : Location) (c c' : ConditionDef) :
    applyAttribute c (.setting key op value location) ≠ .ok (some c') := by
  intro h
  cases key with
  | text => cases hkey
  | base => cases hkey
  | tag => cases hkey
  | min => cases h
  | max => cases h
  | skip => cases h
  | ref =>
    obtain ⟨n, hn, -⟩ := bind_eq_ok.mp h
    exact countValue_ne_ok hop value n hn
  | space => exact hspace rfl

/-! ### Other attributes in the same forms -/

section MapAttributes

variable (f : List Attribute → List Attribute)

def TokenForm.mapAttributes (form : TokenForm) : TokenForm := { form with attributes := f form.attributes }

mutual

def ItemForm.mapAttributes : ItemForm → ItemForm
  | .tokens first others => .tokens (first.mapAttributes f) (others.map (TokenForm.mapAttributes f))
  | .phrase name location => .phrase name location
  | .marker items location => .marker (mapItems items) location
  | .unify negate features items location => .unify negate features (mapItems items) location

def mapItems : List ItemForm → List ItemForm
  | [] => []
  | item :: rest => item.mapAttributes :: mapItems rest

end

def PatternForm.mapAttributes (form : PatternForm) : PatternForm := { form with items := mapItems f form.items }

def RuleEntry.mapAttributes : RuleEntry → RuleEntry
  | pattern form => .pattern (form.mapAttributes f)
  | entry => entry

def RuleForm.mapAttributes (form : RuleForm) : RuleForm :=
  { form with entries := form.entries.map (RuleEntry.mapAttributes f) }

def DisambiguationEntry.mapAttributes : DisambiguationEntry → DisambiguationEntry
  | pattern form => .pattern (form.mapAttributes f)
  | entry => entry

def DisambiguationForm.mapAttributes (form : DisambiguationForm) : DisambiguationForm :=
  { form with entries := form.entries.map (DisambiguationEntry.mapAttributes f) }

def FeatureForm.mapAttributes (form : FeatureForm) : FeatureForm :=
  { form with types := form.types.map fun type => (type.1, f type.2) }

def PhraseForm.mapAttributes (form : PhraseForm) : PhraseForm :=
  { form with alternatives := form.alternatives.map (mapItems f) }

def Form.mapAttributes : Form → Form
  | feature form => .feature (form.mapAttributes f)
  | phrase form => .phrase (form.mapAttributes f)
  | group id description rules => .group id description (rules.map (RuleForm.mapAttributes f))
  | rule form => .rule (form.mapAttributes f)
  | disambiguation form => .disambiguation (form.mapAttributes f)

/-- What becomes of a list of attributes makes the same token and the same conditions. -/
structure KeepsMeaning : Prop where
  token : ∀ t attributes, (f attributes).foldlM applyToToken t = attributes.foldlM applyToToken t
  conditions : ∀ fault c attributes, conditionOf fault c (f attributes) = conditionOf fault c attributes

variable {f}

theorem TokenForm.define_mapAttributes (hf : KeepsMeaning f) (form : TokenForm) :
    (form.mapAttributes f).define = form.define :=
  hf.token _ _

mutual

theorem ItemForm.define_mapAttributes (hf : KeepsMeaning f) (form : ItemForm) :
    (form.mapAttributes f).define = form.define := by
  match form with
  | .tokens first others =>
    simp only [ItemForm.mapAttributes, ItemForm.define, TokenForm.define_mapAttributes hf, List.mapM_map,
      Function.comp_def]
  | .phrase name location => rfl
  | .marker items location => simp only [ItemForm.mapAttributes, ItemForm.define, defineItems_mapItems hf items]
  | .unify negate features items location =>
    simp only [ItemForm.mapAttributes, ItemForm.define, defineItems_mapItems hf items]

theorem defineItems_mapItems (hf : KeepsMeaning f) (forms : List ItemForm) :
    defineItems (mapItems f forms) = defineItems forms := by
  match forms with
  | [] => rfl
  | form :: rest =>
    simp only [mapItems, defineItems, ItemForm.define_mapAttributes hf form, defineItems_mapItems hf rest]

end

theorem PatternForm.define_mapAttributes (hf : KeepsMeaning f) (form : PatternForm) :
    (form.mapAttributes f).define = form.define := by
  simp only [PatternForm.define, PatternForm.mapAttributes, defineItems_mapItems hf]

theorem RuleDraft.add_mapAttributes (hf : KeepsMeaning f) (draft : RuleDraft) (entry : RuleEntry) :
    draft.add (entry.mapAttributes f) = draft.add entry := by
  cases entry with
  | pattern form => simp only [RuleEntry.mapAttributes, RuleDraft.add, PatternForm.define_mapAttributes hf]
  | message text => rfl
  | short text => rfl
  | suggestion text => rfl
  | overlap => rfl
  | sample form => rfl

theorem RuleForm.define_mapAttributes (hf : KeepsMeaning f) (form : RuleForm) (group : Option GroupHead)
    (number : Nat) : (form.mapAttributes f).define group number = form.define group number := by
  simp only [RuleForm.define, RuleForm.mapAttributes, RuleForm.id?, List.foldlM_map, RuleDraft.add_mapAttributes hf]

theorem defineGroup_mapAttributes (hf : KeepsMeaning f) (head : GroupHead) (number : Nat) (forms : List RuleForm) :
    defineGroup head number (forms.map (RuleForm.mapAttributes f)) = defineGroup head number forms := by
  induction forms generalizing number with
  | nil => rfl
  | cons form rest ih => simp only [List.map_cons, defineGroup, RuleForm.define_mapAttributes hf, ih]

theorem DisambiguationDraft.add_mapAttributes (hf : KeepsMeaning f) (id : String) (draft : DisambiguationDraft)
    (entry : DisambiguationEntry) : draft.add id (entry.mapAttributes f) = draft.add id entry := by
  cases entry with
  | pattern form =>
    simp only [DisambiguationEntry.mapAttributes, DisambiguationDraft.add, PatternForm.define_mapAttributes hf]
  | action form => rfl
  | reading attributes => rfl
  | sample form => rfl

theorem DisambiguationForm.define_mapAttributes (hf : KeepsMeaning f) (form : DisambiguationForm) :
    (form.mapAttributes f).define = form.define := by
  simp only [DisambiguationForm.define, DisambiguationForm.mapAttributes, List.foldlM_map,
    DisambiguationDraft.add_mapAttributes hf]

theorem FeatureForm.define_mapAttributes (hf : KeepsMeaning f) (form : FeatureForm) :
    (form.mapAttributes f).define = form.define := by
  simp only [FeatureForm.define, FeatureForm.mapAttributes, List.mapM_map, Function.comp_def, hf.conditions]

theorem PhraseForm.define_mapAttributes (hf : KeepsMeaning f) (form : PhraseForm) :
    (form.mapAttributes f).define = form.define := by
  simp only [PhraseForm.define, PhraseForm.mapAttributes, List.mapM_map, Function.comp_def, defineItems_mapItems hf]

theorem addForm_mapAttributes (hf : KeepsMeaning f) (file : RuleFile) (form : Form) :
    addForm file (form.mapAttributes f) = addForm file form := by
  cases form with
  | feature form => simp only [Form.mapAttributes, addForm, FeatureForm.define_mapAttributes hf]
  | phrase form => simp only [Form.mapAttributes, addForm, PhraseForm.define_mapAttributes hf]
  | group id description rules => simp only [Form.mapAttributes, addForm, defineGroup_mapAttributes hf]
  | rule form => simp only [Form.mapAttributes, addForm, RuleForm.define_mapAttributes hf]
  | disambiguation form => simp only [Form.mapAttributes, addForm, DisambiguationForm.define_mapAttributes hf]

theorem ofForms_mapAttributes (hf : KeepsMeaning f) (forms : List Form) :
    RuleFile.ofForms (forms.map (Form.mapAttributes f)) = RuleFile.ofForms forms := by
  simp only [RuleFile.ofForms, List.foldlM_map, addForm_mapAttributes hf]

end MapAttributes

/-! ### Operators that are not looked at -/

mutual

/-- The attribute with an equals sign where its operator is not looked at. -/
def Attribute.plain : Attribute → Attribute
  | .exception scope conditions location => .exception scope (plainAll conditions) location
  | .setting key op value location =>
    .setting key (if ignoresOperator key value then .equal else op) value location
  | .negation location => .negation location
  | .caseFlag location => .caseFlag location
  | .bareText text location => .bareText text location

def plainAll : List Attribute → List Attribute
  | [] => []
  | a :: rest => a.plain :: plainAll rest

end

theorem applyAttribute_plain (c : ConditionDef) (a : Attribute) : applyAttribute c a.plain = applyAttribute c a := by
  cases a with
  | setting key op value location =>
    rw [Attribute.plain]
    cases key with
    | max => rfl
    | skip => rfl
    | space => rfl
    | _ => rw [if_neg (by simp [ignoresOperator])]
  | _ => rfl

theorem location_plain (a : Attribute) : a.plain.location = a.location := by
  cases a <;> rfl

theorem conditionOf_plainAll (fault : Fault) (c : ConditionDef) (attributes : List Attribute) :
    conditionOf fault c (plainAll attributes) = conditionOf fault c attributes := by
  induction attributes generalizing c with
  | nil => rfl
  | cons a rest ih => simp only [plainAll, conditionOf, applyAttribute_plain, location_plain, ih]

theorem boundValue_plain (location : Location) (key : Key) (hkey : key = .max ∨ key = .skip) (op : Operator)
    (value : String) : boundValue location (if ignoresOperator key value then .equal else op) value =
      boundValue location op value := by
  by_cases hvalue : value = "*"
  · rw [boundValue, boundValue, if_pos hvalue, if_pos hvalue]
  · rw [if_neg]
    rintro (hspace | ⟨-, hstar⟩)
    · rcases hkey with rfl | rfl <;> cases hspace
    · exact hvalue hstar

theorem applyToToken_plain (t : TokenDef) (a : Attribute) : applyToToken t a.plain = applyToToken t a := by
  cases a with
  | exception scope conditions location => simp only [Attribute.plain, applyToToken, exceptionOf, conditionOf_plainAll]
  | setting key op value location =>
    cases key with
    | max => simp only [Attribute.plain, applyToToken, boundValue_plain location .max (Or.inl rfl)]
    | skip => simp only [Attribute.plain, applyToToken, boundValue_plain location .skip (Or.inr rfl)]
    | space => rfl
    | _ => rw [Attribute.plain, if_neg (by simp [ignoresOperator])]
  | _ => rfl

theorem keepsMeaning_plainAll : KeepsMeaning plainAll where
  token t attributes := by
    induction attributes generalizing t with
    | nil => rfl
    | cons a rest ih => simp only [plainAll, List.foldlM_cons, applyToToken_plain, ih]
  conditions := conditionOf_plainAll

end Source

open Source

/-- A key that takes an equals sign is accepted with no other operator where its operator is looked at. Where it is not,
any other might as well be an equals sign. -/
theorem RuleFile.operators_of_read {source : String} {forms : List Form} (h : readForms source = some forms) :
    (∀ form ∈ forms, ∀ key op value location, Key.takesEqual key → op ≠ .equal →
      (¬ignoresOperator key value → ∀ t, form.HasToken t → .setting key op value location ∈ t.attributes →
        ∃ e, RuleFile.read source = .error e) ∧
      (key ≠ .space → ∀ conditions, form.HasConditions conditions → .setting key op value location ∈ conditions →
        ∃ e, RuleFile.read source = .error e)) ∧
    RuleFile.read source = RuleFile.ofForms (forms.map (Form.mapAttributes plainAll)) := by
  refine ⟨fun form hform key op value location hkey hop => ⟨fun hread t ht hmem => ?_,
    fun hspace conditions hconditions hmem => ?_⟩, ?_⟩
  · refine exists_error_of_hasToken h hform ht fun d hd => ?_
    obtain ⟨t₁, t₂, hstep⟩ := exists_step_of_foldlM_eq_ok hd hmem
    exact applyToToken_setting_ne_ok hkey hop hread location t₁ t₂ hstep
  · refine exists_error_of_hasConditions h hform hconditions fun hown => ?_
    obtain ⟨c₁, c₂, hstep⟩ := hown.exists_step hmem
    exact applyAttribute_setting_ne_ok hkey hspace hop value location c₁ c₂ hstep
  · rw [read_of_readForms h, ofForms_mapAttributes keepsMeaning_plainAll]

namespace RuleFile

def negatedCount : String := "rule R \x7b pattern \x7b [min!=0] \x7d message \"m\"; \x7d"

def referenceWithTilde : String := "rule R \x7b pattern \x7b [except(ref~1)] \x7d message \"m\"; \x7d"

def negatedSpace : String := "rule R \x7b pattern \x7b [space!=yes, skip~*] \x7d message \"m\"; \x7d"

theorem readForms_negatedSpace : readForms negatedSpace =
    some [.ofToken ⟨[.setting .space .notEqual "yes" ⟨1, 21⟩, .setting .skip .like "*" ⟨1, 33⟩], ⟨1, 20⟩⟩] := by cbv

theorem operators_of_read_negatedSpace :
    (∃ e, RuleFile.read negatedCount = .error e) ∧ (∃ e, RuleFile.read referenceWithTilde = .error e) ∧
      RuleFile.read negatedSpace = RuleFile.ofForms
        [.ofToken ⟨[.setting .space .equal "yes" ⟨1, 21⟩, .setting .skip .equal "*" ⟨1, 33⟩], ⟨1, 20⟩⟩] := by
  have hcount : readForms negatedCount =
      some [.ofToken ⟨[.setting .min .notEqual "0" ⟨1, 21⟩], ⟨1, 20⟩⟩] := by cbv
  have hreference : readForms referenceWithTilde =
      some [.ofToken ⟨[.exception .current [.setting .ref .like "1" ⟨1, 28⟩] ⟨1, 21⟩], ⟨1, 20⟩⟩] := by cbv
  have hown (t : TokenForm) : (Form.ofToken t).HasToken t := Form.hasToken_ofToken_iff.mpr rfl
  refine ⟨?_, ?_, (operators_of_read readForms_negatedSpace).2⟩
  · exact ((operators_of_read hcount).1 _ (List.mem_singleton_self _) .min .notEqual _ _ rfl (by decide)).1 (by decide)
      _ (hown _) List.mem_cons_self
  · exact ((operators_of_read hreference).1 _ (List.mem_singleton_self _) .ref .like _ _ rfl (by decide)).2 (by decide)
      _ (Or.inl ⟨_, hown _, .here List.mem_cons_self⟩) List.mem_cons_self

/-- A negated setting means what it denies, and a bound with a tilde is the star. -/
theorem read_negatedSpace :
    ∃ forms form t file d, readForms negatedSpace = some forms ∧ form ∈ forms ∧ form.HasToken t ∧
      .setting .space .notEqual "yes" ⟨1, 21⟩ ∈ t.attributes ∧ .setting .skip .like "*" ⟨1, 33⟩ ∈ t.attributes ∧
      RuleFile.read negatedSpace = .ok file ∧ file.HasToken d ∧
      d = { condition := { spaceBefore := some true }, skip := .unbounded, location := t.location } := by
  obtain ⟨file, hfile, hd⟩ := exists_read_of_readForms_ofToken readForms_negatedSpace rfl
  exact ⟨_, _, _, file, _, readForms_negatedSpace, List.mem_singleton_self _, Form.hasToken_ofToken_iff.mpr rfl,
    List.mem_cons_self, List.mem_cons_of_mem _ List.mem_cons_self, hfile, hd, rfl⟩

end RuleFile

end GrammarCheck
