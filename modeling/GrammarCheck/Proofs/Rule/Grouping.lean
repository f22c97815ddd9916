import GrammarCheck.Proofs.Rule.Siblings
import GrammarCheck.Proofs.Search.Matching
import GrammarCheck.RuleSet

/-! The groups of agreement of compiled rules. A group comes from one block of the pattern, so its elements stand
together, and its last element is marked. -/

namespace GrammarCheck

open Success

/-- The element is in a group of agreement. -/
def Element.InGroup (g : Nat) (e : Element) : Prop := e.agreement.map (·.group) = some g

namespace Compile

theorem inGroup_markLast {g : Nat} {e : Element} {next : Option Element} :
    (markLast e next).InGroup g ↔ e.InGroup g := by
  unfold Element.InGroup markLast
  cases e.agreement <;> rfl

theorem forall_not_inGroup_closeGroups {g : Nat} {elements : List Element} (h : ∀ e ∈ elements, ¬e.InGroup g) :
    ∀ e ∈ closeGroups elements, ¬e.InGroup g := by
  induction elements with
  | nil => exact h
  | cons e rest ih =>
    obtain ⟨hfirst, hrest⟩ := List.forall_mem_cons.mp h
    exact List.forall_mem_cons.mpr ⟨fun hin => hfirst (inGroup_markLast.mp hin), ih hrest⟩

theorem head?_closeGroups (elements : List Element) :
    (closeGroups elements).head? = elements.head?.map fun e => markLast e elements.tail.head? := by
  cases elements <;> rfl

theorem grouped_closeGroups {elements : List Element}
    (hsame : ∀ e ∈ elements, ∀ e' ∈ elements, ∀ slot slot', e.agreement = some slot → e'.agreement = some slot' →
      slot'.group = slot.group → slot'.features = slot.features ∧ slot'.negate = slot.negate)
    (hcontiguous : ∀ g, Contiguous (Element.InGroup g) elements) : Search.Grouped (closeGroups elements) := by
  induction elements with
  | nil => exact trivial
  | cons e rest ih =>
    have hrest : Search.Grouped (closeGroups rest) := by
      refine ih (fun e he e' he' => ?_) fun g => (hcontiguous g).of_cons
      exact hsame e (List.mem_cons_of_mem _ he) e' (List.mem_cons_of_mem _ he')
    refine ⟨fun slot hslot => ?_, hrest⟩
    cases hown : e.agreement with
    | none =>
      simp only [markLast, hown, Option.map_none, reduceCtorEq] at hslot
    | some own =>
      simp only [markLast, hown, Option.map_some, Option.some_inj] at hslot
      subst hslot
      by_cases hnext : (rest.head?.bind (·.agreement)).map (·.group) = some own.group
      · -- The group goes on with the next element.
        obtain ⟨slot', hbind, hgroup⟩ := Option.map_eq_some_iff.mp hnext
        obtain ⟨e', hhead, hslot'⟩ := Option.bind_eq_some_iff.mp hbind
        obtain ⟨hfeatures, hnegate⟩ := hsame e List.mem_cons_self e'
          (List.mem_cons_of_mem _ (List.mem_of_mem_head? hhead)) own slot' hown hslot' hgroup
        rw [if_neg (by simp [hnext])]
        have hclosed : (closeGroups rest).head? = some (markLast e' rest.tail.head?) := by
          rw [head?_closeGroups, hhead, Option.map_some]
        exact ⟨_, _, hclosed, congrArg (Option.map _) hslot', hgroup, hfeatures, hnegate⟩
      · -- The group ends here, and it does not come up again because it stands together.
        rw [if_pos (by simpa using hnext)]
        have hnot : ∀ e' ∈ rest, ¬e'.InGroup own.group := by
          refine (hcontiguous own.group).forall_not_of_head (by simp [Element.InGroup, hown]) fun e' hhead hin => ?_
          rw [hhead] at hnext
          exact hnext hin
        intro e' he' slot' hslot' hgroup
        exact forall_not_inGroup_closeGroups hnot e' he' (by simp [Element.InGroup, hslot', hgroup])

theorem exists_block_of_slot {context : RuleContext} {caseSensitive : Bool} {number : UnifyBlock → Nat}
    {tokens : List ChosenToken} {elements : List Element}
    (h : List.Forall₂ (IsElementOf context caseSensitive number) tokens elements) {e : Element} (he : e ∈ elements)
    {slot : AgreementSlot} (hslot : e.agreement = some slot) :
    ∃ b, (∃ t ∈ tokens, t.block = some b) ∧ IsSlotOf context number b slot := by
  induction h with
  | nil => exact absurd he List.not_mem_nil
  | @cons t e' _ _ hfirst _ ih =>
    rcases List.mem_cons.mp he with rfl | he
    · have hagreement := hfirst.agreement
      rw [hslot] at hagreement
      cases hblock : t.block with
      | none =>
        rw [hblock] at hagreement
        exact nomatch hagreement
      | some b =>
        rw [hblock] at hagreement
        cases hagreement with
        | some hown => exact ⟨b, ⟨t, List.mem_cons_self, hblock⟩, hown⟩
    · obtain ⟨b, ⟨t, ht, hblock⟩, hown⟩ := ih he
      exact ⟨b, ⟨t, List.mem_cons_of_mem _ ht, hblock⟩, hown⟩

/-- The elements of a group are those of a block's tokens, so they stand together. -/
theorem contiguous_inGroup {context : RuleContext} {d : PatternDef} {ways : List Selection} {tally : Tally}
    (hderives : Derives context (.items .root d.items) ⟨false, []⟩ ways tally) {way : Selection} (hway : way ∈ ways)
    {elements : List Element}
    (helements : List.Forall₂ (IsElementOf context d.caseSensitive tally.blocks.idxOf) way.tokens elements) (g : Nat) :
    Contiguous (Element.InGroup g) elements := by
  have hmet := hderives.block_mem (fun _ hb => nomatch hb) way hway
  have htokens : Contiguous (fun t : ChosenToken => t.block.map tally.blocks.idxOf = some g) way.tokens := by
    by_cases hmem : ∃ b ∈ tally.blocks, tally.blocks.idxOf b = g
    · obtain ⟨b, hb, rfl⟩ := hmem
      refine (hderives.contiguous_block b way hway).congr fun t ht => ⟨fun h => by rw [h]; rfl, fun h => ?_⟩
      obtain ⟨b', hblock, hindex⟩ := Option.map_eq_some_iff.mp h
      rw [hblock, (List.idxOf_inj (hmet t ht b' hblock)).mp hindex]
    · refine .of_forall_not fun t ht h => ?_
      obtain ⟨b, hblock, hindex⟩ := Option.map_eq_some_iff.mp h
      exact hmem ⟨b, hmet t ht b hblock, hindex⟩
  refine htokens.rel helements fun t e he => ?_
  have hagreement := he.agreement
  unfold Element.InGroup
  revert hagreement
  generalize t.block = block
  generalize e.agreement = slot
  rintro (⟨hslot⟩ | _)
  · rw [Option.map_some, Option.map_some, hslot.group]
  · rfl

theorem grouped_of_patterns {context : RuleContext} {ruleId : String} {d : PatternDef} {ps : List CompiledPattern}
    (h : patterns context ruleId d = .ok ps) {p : CompiledPattern} (hp : p ∈ ps) : Search.Grouped p.elements := by
  obtain ⟨ways, tally, count, hderives, hgroups, -, way, hway, hpattern⟩ := exists_way_of_patterns h hp
  have hmet := hderives.block_mem (fun _ hb => nomatch hb) way hway
  obtain ⟨elements, helements, rfl⟩ := exists_elements_of_pattern hgroups hmet hpattern
  refine grouped_closeGroups ?_ (contiguous_inGroup hderives hway helements)
  intro e he e' he' slot slot' hslot hslot' hgroup
  obtain ⟨b, hb, hown⟩ := exists_block_of_slot helements he hslot
  obtain ⟨b', hb', hown'⟩ := exists_block_of_slot helements he' hslot'
  rw [hown.group, hown'.group] at hgroup
  obtain ⟨t, ht, hblock⟩ := hb'
  have hsame : b' = b := (List.idxOf_inj (hmet t ht b' hblock)).mp hgroup
  subst hsame
  refine ⟨?_, hown'.negate.trans hown.negate.symm⟩
  refine List.right_unique_forall₂' (fun name i j hi hj => ?_) hown'.features hown.features
  exact Option.some_inj.mp (hi.symm.trans hj)

end Compile

namespace Rule

/-- The rule comes from the definition of a rule or of a disambiguation rule. -/
inductive IsCompiled : Rule → Prop
  | rule {context d rules r} (hrules : Compile.rules context d = .ok rules) (hr : r ∈ rules) : IsCompiled r
  | disambiguation {context d rules} {r : DisambiguationRule}
      (hrules : Compile.disambiguationRules context d = .ok rules) (hr : r ∈ rules) : IsCompiled r.rule

/-- What a rule has from its pattern. -/
def compiledPattern (r : Rule) : Compile.CompiledPattern := ⟨r.elements, r.elementCounts, r.marker⟩

theorem compiledPattern_of_rules {context : RuleContext} {d : RuleDef} {rules : List Rule} {r : Rule}
    (h : Compile.rules context d = .ok rules) (hr : r ∈ rules) :
    ∃ ps, Compile.patterns context d.id d.pattern = .ok ps ∧ r.compiledPattern ∈ ps := by
  obtain ⟨ps, hps, h⟩ := bind_eq_ok.mp h
  obtain ⟨texts, -, h⟩ := bind_eq_ok.mp h
  obtain rfl := pure_eq_ok.mp h
  obtain ⟨p, hp, rfl⟩ := List.mem_map.mp hr
  exact ⟨ps, hps, hp⟩

theorem compiledPattern_of_disambiguationRules {context : RuleContext} {d : DisambiguationDef}
    {rules : List DisambiguationRule} {r : DisambiguationRule} (h : Compile.disambiguationRules context d = .ok rules)
    (hr : r ∈ rules) : ∃ ps, Compile.patterns context d.id d.pattern = .ok ps ∧ r.rule.compiledPattern ∈ ps := by
  obtain ⟨ps, hps, h⟩ := bind_eq_ok.mp h
  obtain ⟨p, hp, hone⟩ := exists_of_mem_of_mapM_eq_ok h hr
  obtain ⟨a, -, hone⟩ := bind_eq_ok.mp hone
  obtain rfl := pure_eq_ok.mp hone
  exact ⟨ps, hps, hp⟩

theorem IsCompiled.grouped {r : Rule} (h : r.IsCompiled) : Search.Grouped r.elements := by
  cases h with
  | rule hrules hr =>
    obtain ⟨ps, hps, hp⟩ := compiledPattern_of_rules hrules hr
    exact Compile.grouped_of_patterns hps hp
  | disambiguation hrules hr =>
    obtain ⟨ps, hps, hp⟩ := compiledPattern_of_disambiguationRules hrules hr
    exact Compile.grouped_of_patterns hps hp

end Rule

/-- A file is loaded by compiling its definitions in order. -/
theorem RuleSet.exists_compiled_of_load {source : String} {set : RuleSet} (h : RuleSet.load source = .ok set) :
    ∃ file context grammar disambiguation, RuleFile.read source = .ok file ∧ RuleContext.ofFile file = .ok context ∧
      List.Forall₂ (fun d rules => Compile.rules context d = .ok rules) file.rules grammar ∧
      List.Forall₂ (fun d rules => Compile.disambiguationRules context d = .ok rules) file.disambiguations
        disambiguation ∧
      set = ⟨grammar.flatten, disambiguation.flatten⟩ := by
  obtain ⟨file, hread, h⟩ := bind_eq_ok.mp h
  obtain ⟨context, hcontext, h⟩ := bind_eq_ok.mp (mapError_eq_ok.mp h)
  obtain ⟨grammar, hgrammar, h⟩ := bind_eq_ok.mp h
  obtain ⟨disambiguation, hdisambiguation, h⟩ := bind_eq_ok.mp h
  exact ⟨file, context, grammar, disambiguation, mapError_eq_ok.mp hread, hcontext, forall₂_of_mapM_eq_ok hgrammar,
    forall₂_of_mapM_eq_ok hdisambiguation, (pure_eq_ok.mp h).symm⟩

/-- The rules that a file is loaded to are compiled. -/
theorem RuleSet.isCompiled_of_load {source : String} {set : RuleSet} (h : RuleSet.load source = .ok set) :
    (∀ r ∈ set.grammar, r.IsCompiled) ∧ ∀ r ∈ set.disambiguation, r.rule.IsCompiled := by
  obtain ⟨file, context, grammar, disambiguation, -, -, hgrammar, hdisambiguation, rfl⟩ := exists_compiled_of_load h
  constructor
  · intro r hr
    obtain ⟨rules, hrules, hr⟩ := List.mem_flatten.mp hr
    obtain ⟨d, -, hd⟩ := exists_of_mem_right hgrammar hrules
    exact .rule hd hr
  · intro r hr
    obtain ⟨rules, hrules, hr⟩ := List.mem_flatten.mp hr
    obtain ⟨d, -, hd⟩ := exists_of_mem_right hdisambiguation hrules
    exact .disambiguation hd hr

end GrammarCheck
