import GrammarCheck.Proofs.Rule.Choice
import GrammarCheck.Proofs.Source.Origin

/-! The reader wants an item in each pattern, in each block and in each alternative of a phrase, and an alternative in
each phrase. So no part of a rule file is empty, and each pattern takes at least one position. -/

namespace GrammarCheck

open Success

/-- Each block in an item holds items. -/
inductive PatternItem.Filled : PatternItem → Prop
  | tokens {group} : Filled (.tokens group)
  | phrase {name location} : Filled (.phrase name location)
  | marker {items location} (hne : items ≠ []) (hitems : ∀ i ∈ items, Filled i) : Filled (.marker items location)
  | unify {features negate items location} (hne : items ≠ []) (hitems : ∀ i ∈ items, Filled i) :
      Filled (.unify features negate items location)

/-- There are items, and each block in them holds items. -/
def FilledItems (items : List PatternItem) : Prop := items ≠ [] ∧ ∀ i ∈ items, i.Filled

/-- There are alternatives, and each of them holds items. -/
def PhraseDef.Filled (p : PhraseDef) : Prop := p.alternatives ≠ [] ∧ ∀ items ∈ p.alternatives, FilledItems items

theorem positionCounts_pos {items : List PatternItem} (hne : items ≠ []) (h : ∀ i ∈ items, 0 < i.positionCount) :
    0 < positionCounts items := by
  cases items with
  | nil => exact absurd rfl hne
  | cons first rest => exact Nat.add_pos_left (h first List.mem_cons_self) _

theorem PatternItem.Filled.positionCount_pos {i : PatternItem} (h : i.Filled) : 0 < i.positionCount := by
  induction h with
  | tokens => exact Nat.one_pos
  | phrase => exact Nat.one_pos
  | marker hne _ ih => exact GrammarCheck.positionCounts_pos hne ih
  | unify hne _ ih => exact GrammarCheck.positionCounts_pos hne ih

theorem FilledItems.positionCounts_pos {items : List PatternItem} (h : FilledItems items) : 0 < positionCounts items :=
  GrammarCheck.positionCounts_pos h.1 fun i hi => (h.2 i hi).positionCount_pos

namespace Source

namespace Reader

variable {α β : Type} {P : α → Prop} {Q : β → Prop}

/-- All that a reader gives has a property. -/
def Gives (p : Reader α) (P : α → Prop) : Prop := ∀ c a c', p c = some (a, c') → P a

namespace Gives

theorem trivial (p : Reader α) : p.Gives fun _ => True := fun _ _ _ _ => True.intro

theorem pure {a : α} (h : P a) : Gives (Pure.pure a) P := by
  intro c a' c' heq
  obtain ⟨rfl, rfl⟩ := Prod.mk.inj (Option.some_inj.mp heq)
  exact h

theorem bind {p : Reader α} {f : α → Reader β} (hp : p.Gives P) (hf : ∀ a, P a → (f a).Gives Q) :
    (p >>= f).Gives Q := by
  intro c b c' heq
  obtain ⟨⟨a, c₁⟩, ha, hb⟩ := Option.bind_eq_some_iff.mp heq
  exact hf a (hp c a c₁ ha) c₁ b c' hb

/-- A part whose result does not matter. -/
theorem andThen {p : Reader α} {f : α → Reader β} (hf : ∀ a, (f a).Gives Q) : (p >>= f).Gives Q :=
  (trivial p).bind fun a _ => hf a

theorem map {p : Reader α} {f : α → β} (hp : p.Gives P) (hf : ∀ a, P a → Q (f a)) : (f <$> p).Gives Q := by
  rw [← bind_pure_comp]
  exact hp.bind fun a ha => pure (hf a ha)

theorem after {p : Reader α} (hp : p.Gives P) : (Reader.after p).Gives P := andThen fun _ => hp

theorem manyUpTo {p : Reader α} (hp : p.Gives P) (n : Nat) : (Reader.manyUpTo p n).Gives fun l => ∀ a ∈ l, P a := by
  induction n with
  | zero => exact pure (List.forall_mem_nil _)
  | succ n ih =>
    have hoptional : (Reader.optional p).Gives fun r => ∀ a, r = some a → P a := by
      intro c r c' heq a hr
      subst hr
      unfold Reader.optional at heq
      split at heq
      case h_1 a' c₁ hafter =>
        obtain ⟨hsome, -⟩ := Prod.mk.inj (Option.some_inj.mp heq)
        rw [← Option.some_inj.mp hsome]
        exact hp.after _ _ _ hafter
      case h_2 => exact nomatch heq
    refine hoptional.bind fun r hr => ?_
    cases r with
    | none => exact pure (List.forall_mem_nil _)
    | some a => exact ih.bind fun rest hrest => pure (List.forall_mem_cons.mpr ⟨hr a rfl, hrest⟩)

theorem many {p : Reader α} (hp : p.Gives P) : (Reader.many p).Gives fun l => ∀ a ∈ l, P a :=
  fun c => hp.manyUpTo c.rest.length c

theorem many1 {p : Reader α} (hp : p.Gives P) : (Reader.many1 p).Gives fun l => l ≠ [] ∧ ∀ a ∈ l, P a :=
  hp.after.bind fun _ ha => hp.many.bind fun _ hrest =>
    pure ⟨List.cons_ne_nil _ _, List.forall_mem_cons.mpr ⟨ha, hrest⟩⟩

theorem separated {p : Reader α} (hp : p.Gives P) (separator : String) :
    (Reader.separated separator p).Gives fun l => l ≠ [] ∧ ∀ a ∈ l, P a :=
  hp.after.bind fun _ ha => (Gives.many (.andThen fun _ => hp.after)).bind fun _ hrest =>
    pure ⟨List.cons_ne_nil _ _, List.forall_mem_cons.mpr ⟨ha, hrest⟩⟩

theorem choice {ps : List (Reader α)} (h : ∀ p ∈ ps, Gives p P) : (Reader.choice ps).Gives P := by
  intro c a c' heq
  unfold Reader.choice at heq
  induction ps with
  | nil => exact nomatch heq
  | cons p rest ih =>
    rw [List.firstM] at heq
    cases hp : p c with
    | none =>
      rw [hp] at heq
      exact ih (fun q hq => h q (List.mem_cons_of_mem _ hq)) heq
    | some outcome =>
      rw [hp] at heq
      exact h p List.mem_cons_self c a c' (hp.trans heq)

end Gives

end Reader

/-- What a form defines holds items. -/
def ItemForm.Filled (form : ItemForm) : Prop := ∀ i, form.define = .ok i → i.Filled

def PatternForm.Filled (form : PatternForm) : Prop := ∀ d, form.define = .ok d → FilledItems d.items

def PhraseForm.Filled (form : PhraseForm) : Prop := ∀ p, form.define = .ok p → p.Filled

def RuleForm.Filled (form : RuleForm) : Prop := ∀ p, RuleEntry.pattern p ∈ form.entries → p.Filled

def DisambiguationForm.Filled (form : DisambiguationForm) : Prop :=
  ∀ p, DisambiguationEntry.pattern p ∈ form.entries → p.Filled

def Form.Filled : Form → Prop
  | .feature _ => True
  | .phrase p => p.Filled
  | .group _ _ rules => ∀ r ∈ rules, r.Filled
  | .rule r => r.Filled
  | .disambiguation d => d.Filled

theorem forall_filled_of_defineItems {forms : List ItemForm} (hfilled : ∀ form ∈ forms, form.Filled)
    {items : List PatternItem} (h : defineItems forms = .ok items) :
    items.length = forms.length ∧ ∀ i ∈ items, i.Filled := by
  induction forms generalizing items with
  | nil =>
    obtain rfl := Except.ok.inj h
    exact ⟨rfl, List.forall_mem_nil _⟩
  | cons first rest ih =>
    rw [defineItems] at h
    obtain ⟨item, hitem, h⟩ := bind_eq_ok.mp h
    obtain ⟨others, hothers, h⟩ := bind_eq_ok.mp h
    obtain rfl := pure_eq_ok.mp h
    obtain ⟨hfirst, hrest⟩ := List.forall_mem_cons.mp hfilled
    obtain ⟨hlength, hall⟩ := ih hrest hothers
    exact ⟨congrArg Nat.succ hlength, List.forall_mem_cons.mpr ⟨hfirst item hitem, hall⟩⟩

theorem filledItems_of_defineItems {forms : List ItemForm} (hne : forms ≠ []) (hfilled : ∀ form ∈ forms, form.Filled)
    {items : List PatternItem} (h : defineItems forms = .ok items) : FilledItems items := by
  obtain ⟨hlength, hall⟩ := forall_filled_of_defineItems hfilled h
  refine ⟨fun hnil => hne (List.length_eq_zero_iff.mp ?_), hall⟩
  rw [← hlength, hnil]
  rfl

namespace Reader

theorem gives_tokenGroup : tokenGroup.Gives ItemForm.Filled := by
  refine .andThen fun first => .andThen fun others => .pure fun i h => ?_
  rw [ItemForm.define] at h
  obtain ⟨_, -, h⟩ := bind_eq_ok.mp h
  obtain ⟨_, -, h⟩ := bind_eq_ok.mp h
  obtain rfl := pure_eq_ok.mp h
  exact .tokens

theorem gives_phraseReference : phraseReference.Gives ItemForm.Filled := by
  refine .andThen fun location => .andThen fun _ => .andThen fun name => .pure fun i h => ?_
  rw [ItemForm.define] at h
  obtain rfl := Except.ok.inj h
  exact .phrase

theorem gives_item (n : Nat) : (item n).Gives ItemForm.Filled := by
  induction n with
  | zero => exact fun c a c' heq => nomatch heq
  | succ n ih =>
    -- Only the two kinds of blocks read items in their turn.
    refine .choice ?_
    simp only [List.forall_mem_cons, List.not_mem_nil, false_implies, implies_true, and_true]
    refine ⟨?marker, ?unify, gives_phraseReference, gives_tokenGroup⟩
    case marker =>
      refine .andThen fun location => .andThen fun _ => .andThen fun _ => .bind (.many1 ih) fun items hitems => ?_
      refine .andThen fun _ => .pure fun i h => ?_
      rw [ItemForm.define] at h
      obtain ⟨inner, hinner, h⟩ := bind_eq_ok.mp h
      obtain rfl := pure_eq_ok.mp h
      obtain ⟨hne, hall⟩ := filledItems_of_defineItems hitems.1 hitems.2 hinner
      exact .marker hne hall
    case unify =>
      refine .andThen fun location => .andThen fun negate => .andThen fun _ => .andThen fun features => ?_
      refine .andThen fun _ => .andThen fun _ => .bind (.many1 ih) fun items hitems => ?_
      refine .andThen fun _ => .pure fun i h => ?_
      rw [ItemForm.define] at h
      obtain ⟨inner, hinner, h⟩ := bind_eq_ok.mp h
      obtain rfl := pure_eq_ok.mp h
      obtain ⟨hne, hall⟩ := filledItems_of_defineItems hitems.1 hitems.2 hinner
      exact .unify hne hall

theorem gives_anyItem : anyItem.Gives ItemForm.Filled := fun c => gives_item (c.rest.length + 1) c

theorem gives_pattern : pattern.Gives PatternForm.Filled := by
  refine .andThen fun _ => .andThen fun caseFlag => .andThen fun _ => .bind (.many1 gives_anyItem) fun items hitems => ?_
  refine .andThen fun _ => .pure fun d h => ?_
  obtain ⟨inner, hinner, h⟩ := bind_eq_ok.mp h
  obtain rfl := pure_eq_ok.mp h
  exact filledItems_of_defineItems hitems.1 hitems.2 hinner

theorem gives_phrase : phrase.Gives PhraseForm.Filled := by
  refine .andThen fun location => .andThen fun _ => .andThen fun name => .andThen fun _ => ?_
  refine .bind (.separated (.many1 gives_anyItem) "|") fun forms hforms => .andThen fun _ => .pure fun p h => ?_
  obtain ⟨alternatives, halternatives, h⟩ := bind_eq_ok.mp h
  obtain rfl := pure_eq_ok.mp h
  refine ⟨fun hnil => hforms.1 ?_, fun items hitems => ?_⟩
  · have hlength := (forall₂_of_mapM_eq_ok halternatives).length_eq
    rw [show alternatives = [] from hnil] at hlength
    exact List.length_eq_zero_iff.mp hlength
  · obtain ⟨alternative, halternative, hdefine⟩ := exists_of_mem_of_mapM_eq_ok halternatives hitems
    obtain ⟨hne, hfilled⟩ := hforms.2 alternative halternative
    exact filledItems_of_defineItems hne hfilled hdefine

theorem gives_rule : rule.Gives RuleForm.Filled := by
  have hentry : ruleEntry.Gives fun e => ∀ p, e = .pattern p → p.Filled := by
    refine .choice ?_
    simp only [List.forall_mem_cons, List.not_mem_nil, false_implies, implies_true, and_true]
    refine ⟨.map gives_pattern fun p hp p' heq => RuleEntry.pattern.inj heq ▸ hp, ?_, ?_, ?_, ?_, ?_⟩
    · exact .map (.trivial _) fun _ _ _ heq => nomatch heq
    · exact .map (.trivial _) fun _ _ _ heq => nomatch heq
    · exact .map (.trivial _) fun _ _ _ heq => nomatch heq
    · exact .andThen fun _ => .andThen fun _ => .pure fun _ heq => nomatch heq
    · exact .map (.trivial _) fun _ _ _ heq => nomatch heq
  refine .andThen fun location => .andThen fun _ => .andThen fun id => .andThen fun description => ?_
  refine .andThen fun _ => .bind (.many hentry) fun entries hentries => .andThen fun _ => .pure ?_
  exact fun p hp => hentries _ hp p rfl

theorem gives_disambiguation : disambiguation.Gives DisambiguationForm.Filled := by
  have hentry : disambiguationEntry.Gives fun e => ∀ p, e = .pattern p → p.Filled := by
    refine .choice ?_
    simp only [List.forall_mem_cons, List.not_mem_nil, false_implies, implies_true, and_true]
    refine ⟨.map gives_pattern fun p hp p' heq => DisambiguationEntry.pattern.inj heq ▸ hp, ?_, ?_, ?_⟩
    · exact .map (.trivial _) fun _ _ _ heq => nomatch heq
    · exact .andThen fun _ => .andThen fun _ => .andThen fun _ => .pure fun _ heq => nomatch heq
    · exact .map (.trivial _) fun _ _ _ heq => nomatch heq
  refine .andThen fun location => .andThen fun _ => .andThen fun id => .andThen fun description => ?_
  refine .andThen fun _ => .bind (.many hentry) fun entries hentries => .andThen fun _ => .pure ?_
  exact fun p hp => hentries _ hp p rfl

theorem gives_form : form.Gives Form.Filled := by
  refine .choice ?_
  simp only [List.forall_mem_cons, List.not_mem_nil, false_implies, implies_true, and_true]
  refine ⟨.map (.trivial _) fun _ _ => True.intro, .map gives_phrase fun _ h => h, ?_,
    .map gives_rule fun _ h => h, .map gives_disambiguation fun _ h => h⟩
  refine .andThen fun _ => .andThen fun id => .andThen fun description => .andThen fun _ => ?_
  exact .bind (.many gives_rule) fun rules hrules => .andThen fun _ => .pure hrules

end Reader

theorem filled_of_readForms {source : String} {forms : List Form} (h : readForms source = some forms) :
    ∀ form ∈ forms, form.Filled := by
  have hfile : Reader.file.Gives fun forms => ∀ form ∈ forms, form.Filled :=
    .bind (.many Reader.gives_form) fun forms hforms => .andThen fun _ => .pure hforms
  unfold readForms at h
  split at h
  case h_1 read _ hread => exact Option.some_inj.mp h ▸ hfile _ _ _ hread
  case h_2 => exact nomatch h

theorem Form.Filled.pattern {form : Form} (h : form.Filled) {p : PatternForm} (hp : form.HasPattern p) : p.Filled := by
  cases form with
  | feature f => exact hp.elim
  | phrase p => exact hp.elim
  | group id description rules =>
    obtain ⟨r, hr, hentry⟩ := hp
    exact h r hr p hentry
  | rule r => exact h p hp
  | disambiguation d => exact h p hp

end Source

open Source

namespace RuleFile

def patterns (file : RuleFile) : List PatternDef :=
  file.rules.map (·.pattern) ++ file.disambiguations.map (·.pattern)

theorem forall_patterns {file : RuleFile} {P : PatternDef → Prop} :
    (∀ d ∈ file.patterns, P d) ↔
      (∀ d ∈ file.rules, P d.pattern) ∧ ∀ d ∈ file.disambiguations, P d.pattern := by
  simp only [patterns, List.forall_mem_append, List.forall_mem_map]

/-- Patterns and phrases of a rule file hold items. -/
theorem filled {source : String} {file : RuleFile} (h : RuleFile.read source = .ok file) :
    (∀ d ∈ file.patterns, FilledItems d.items) ∧ ∀ p ∈ file.phrases, p.Filled := by
  obtain ⟨forms, hforms, hfile⟩ := read_eq_ok_iff.mp h
  have hdefined := isDefinedBy_of_ofForms hfile
  have hpattern {form : Form} (hform : form ∈ forms) {p : PatternForm} (hp : form.HasPattern p) {d : PatternDef}
      (hd : p.define = .ok d) : FilledItems d.items := (filled_of_readForms hforms form hform).pattern hp d hd
  refine ⟨forall_patterns.mpr ⟨fun d hd => ?_, fun d hd => ?_⟩, fun p hp => ?_⟩
  · obtain ⟨form, hform, p, hp, hdefine⟩ := hdefined.rules d hd
    exact hpattern hform hp hdefine
  · obtain ⟨form, hform, p, hp, hdefine⟩ := hdefined.disambiguations d hd
    exact hpattern hform hp hdefine
  · obtain ⟨form, hform, hdefine⟩ := hdefined.phrases p hp
    exact filled_of_readForms hforms _ hform p hdefine

/-- Every pattern of a rule file takes a position. -/
theorem positionCounts_pos {source : String} {file : RuleFile} (h : RuleFile.read source = .ok file) :
    ∀ d ∈ file.patterns, 0 < positionCounts d.items :=
  fun d hd => ((filled h).1 d hd).positionCounts_pos

end RuleFile

end GrammarCheck
