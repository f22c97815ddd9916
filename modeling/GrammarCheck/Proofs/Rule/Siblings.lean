import GrammarCheck.Proofs.Rule.Expansion
import GrammarCheck.Proofs.Source.Filled
import GrammarCheck.Rule.Compile
import Mathlib.Data.List.NodupEquivFin

/-! The patterns that a definition with phrases is compiled to are its siblings. They correspond to the ways to choose
among the alternatives, and each has the elements of the tokens that were chosen. -/

namespace GrammarCheck

open Success

namespace Compile

theorem findIdx?_inMarker {before between : List PlannedToken} (after : List PlannedToken)
    (hbefore : ∀ t ∈ before, ¬t.inMarker = true) (hbetween : ∀ t ∈ between, t.inMarker = true) (hne : between ≠ []) :
    (before ++ between ++ after).findIdx? (·.inMarker) = some before.length := by
  cases between with
  | nil => exact absurd rfl hne
  | cons t rest =>
    have hnone : before.findIdx? (·.inMarker) = none := by
      rw [List.findIdx?_eq_none_iff]
      exact fun t ht => Bool.eq_false_iff.mpr (hbefore t ht)
    have hfirst := hbetween t List.mem_cons_self
    rw [List.append_assoc, List.findIdx?_append, hnone, List.cons_append, List.findIdx?_cons, hfirst]
    simp

/-- The marker span holds the marked tokens, or all of them if none is marked. -/
theorem contains_markerSpan {sequence : List PlannedToken}
    (h : Contiguous (fun t : PlannedToken => t.inMarker = true) sequence) {k : Nat} (hk : k < sequence.length) :
    (markerSpan sequence).contains k = true ↔
      sequence[k].inMarker = true ∨ ∀ t ∈ sequence, t.inMarker = false := by
  obtain ⟨before, between, after, rfl, hbefore, hbetween, hafter⟩ := h
  by_cases hne : between = []
  · subst hne
    have hall : ∀ t ∈ before ++ [] ++ after, t.inMarker = false := by
      intro t ht
      rw [List.append_nil, List.mem_append] at ht
      exact Bool.eq_false_iff.mpr (ht.elim (hbefore t) (hafter t))
    have hnone : (before ++ [] ++ after).findIdx? PlannedToken.inMarker = none := List.findIdx?_eq_none_iff.mpr hall
    have hspan : markerSpan (before ++ [] ++ after) = ⟨0, (before ++ [] ++ after).length⟩ := by
      unfold markerSpan
      rw [hnone]
    rw [hspan]
    exact ⟨fun _ => Or.inr hall, fun _ => by simpa [Span.contains] using hk⟩
  · have hreverse : (before ++ between ++ after).reverse = after.reverse ++ between.reverse ++ before.reverse := by
      simp only [List.reverse_append, List.append_assoc]
    have hstart := findIdx?_inMarker after hbefore hbetween hne
    have hstop := findIdx?_inMarker before.reverse (fun t ht => hafter t (List.mem_reverse.mp ht))
      (fun t ht => hbetween t (List.mem_reverse.mp ht)) (mt List.reverse_eq_nil_iff.mp hne)
    have hspan : markerSpan (before ++ between ++ after) = ⟨before.length, before.length + between.length⟩ := by
      unfold markerSpan
      rw [hreverse, hstart, hstop]
      simp only [List.length_append, List.length_reverse, Nat.add_sub_cancel]
    obtain ⟨t, ht⟩ := List.exists_mem_of_ne_nil between hne
    have hsome : ¬∀ t ∈ before ++ between ++ after, t.inMarker = false := by
      intro hall
      have hfalse := hall t (by simp [ht])
      rw [hbetween t ht] at hfalse
      cases hfalse
    rw [hspan, or_iff_left hsome, Span.contains_iff]
    rcases Nat.lt_or_ge k before.length with hlow | hlow
    · have hget : (before ++ between ++ after)[k] = before[k] := by
        rw [List.getElem_append_left (by rw [List.length_append]; omega), List.getElem_append_left hlow]
      rw [hget]
      exact ⟨fun hin => absurd hin.1 (Nat.not_le_of_lt hlow), fun hin => absurd hin (hbefore _ (List.getElem_mem _))⟩
    · rcases Nat.lt_or_ge k (before ++ between).length with hmid | hhigh
      · have hget : (before ++ between ++ after)[k] ∈ between := by
          rw [List.getElem_append_left hmid, List.getElem_append_right hlow]
          exact List.getElem_mem _
        rw [List.length_append] at hmid
        exact ⟨fun _ => hbetween _ hget, fun _ => ⟨hlow, hmid⟩⟩
      · have hget : (before ++ between ++ after)[k] ∈ after := by
          rw [List.getElem_append_right hhigh]
          exact List.getElem_mem _
        rw [List.length_append] at hhigh
        exact ⟨fun hin => absurd hin.2 (Nat.not_lt_of_le hhigh), fun hin => absurd hin (hafter _ hget)⟩

/-- The slot of an element whose token stands in a block. -/
structure IsSlotOf (context : RuleContext) (number : UnifyBlock → Nat) (b : UnifyBlock) (slot : AgreementSlot) :
    Prop where
  group : slot.group = number b
  negate : slot.negate = b.negate
  features : List.Forall₂ (fun name i => context.features.index? name = some i) b.features slot.features

/-- The element of a token that was chosen. -/
structure IsElementOf (context : RuleContext) (caseSensitive : Bool) (number : UnifyBlock → Nat) (t : ChosenToken)
    (e : Element) : Prop where
  own : element t.group t.position caseSensitive = .ok { e with agreement := none }
  position : e.position = t.position
  agreement : Option.Rel (IsSlotOf context number) t.block e.agreement

/-- The sibling that the tokens of a way make. -/
structure IsSiblingOf (context : RuleContext) (d : PatternDef) (number : UnifyBlock → Nat) (tokens : List ChosenToken)
    (p : CompiledPattern) : Prop where
  elements : List.Forall₂ (IsElementOf context d.caseSensitive number) tokens p.elements
  elementCounts : p.elementCounts = (List.range (positionCounts d.items)).map fun n => tokens.countP (·.position == n)
  marker : ∀ (k : Nat) (hk : k < tokens.length),
    p.marker.contains k = true ↔ tokens[k].inMarker = true ∨ ∀ t ∈ tokens, t.inMarker = false

theorem element_eq_ok {g : TokenGroup} {position : Nat} {patternCase : Bool} {e : Element}
    (h : element g position patternCase = .ok e) : e.position = position ∧ e.agreement = none := by
  unfold element at h
  obtain ⟨_, -, h⟩ := bind_eq_ok.mp h
  obtain ⟨_, -, h⟩ := bind_eq_ok.mp h
  obtain ⟨_, -, h⟩ := bind_eq_ok.mp h
  obtain ⟨_, -, h⟩ := bind_eq_ok.mp h
  obtain rfl := pure_eq_ok.mp h
  exact ⟨rfl, rfl⟩

/-- Where the groups of agreement are those of blocks, a token's element is in the group of its block. -/
theorem isElementOf_inGroup {context : RuleContext} {blocks : List UnifyBlock} {groups : List AgreementGroup}
    (hgroups : List.Forall₂ (UnifyBlock.Resolves context) blocks groups) {t : ChosenToken}
    (ht : ∀ b, t.block = some b → b ∈ blocks) {caseSensitive : Bool} {e : Element}
    (h : element t.group t.position caseSensitive = .ok e) :
    IsElementOf context caseSensitive blocks.idxOf t (inGroup groups e (t.planned blocks).agreement) := by
  obtain ⟨hposition, hnone⟩ := element_eq_ok h
  refine ⟨?_, hposition, ?_⟩
  · rw [h]
    exact congrArg Except.ok (by rw [← hnone]; rfl)
  · unfold inGroup ChosenToken.planned
    cases hblock : t.block with
    | none => exact .none
    | some b =>
      have hindex : blocks.idxOf b < blocks.length := List.idxOf_lt_length_of_mem (ht b hblock)
      obtain ⟨hlength, hget⟩ := List.forall₂_iff_get.mp hgroups
      have hresolves := hget (blocks.idxOf b) hindex (hlength ▸ hindex)
      rw [List.get_eq_getElem, List.get_eq_getElem, List.getElem_idxOf] at hresolves
      simp only [Option.map_some, Option.bind_some, List.getElem?_eq_getElem (hlength ▸ hindex)]
      exact .some ⟨rfl, hresolves.negate, hresolves.features⟩

theorem isElementOf_markLast {context : RuleContext} {caseSensitive : Bool} {number : UnifyBlock → Nat}
    {t : ChosenToken} {e : Element} (h : IsElementOf context caseSensitive number t e) (next : Option Element) :
    IsElementOf context caseSensitive number t (markLast e next) := by
  refine ⟨h.own, h.position, ?_⟩
  have hagreement := h.agreement
  unfold markLast
  revert hagreement
  generalize t.block = block
  generalize e.agreement = slot
  rintro (⟨hslot⟩ | _)
  · exact .some ⟨hslot.group, hslot.negate, hslot.features⟩
  · exact .none

theorem forall₂_closeGroups {context : RuleContext} {caseSensitive : Bool} {number : UnifyBlock → Nat}
    {tokens : List ChosenToken} {elements : List Element}
    (h : List.Forall₂ (IsElementOf context caseSensitive number) tokens elements) :
    List.Forall₂ (IsElementOf context caseSensitive number) tokens (closeGroups elements) := by
  induction h with
  | nil => exact .nil
  | cons hfirst _ ih => exact .cons (isElementOf_markLast hfirst _) ih

/-- The elements of a sequence before its groups are closed. -/
theorem exists_elements_of_pattern {context : RuleContext} {ruleId : String} {caseSensitive : Bool}
    {blocks : List UnifyBlock} {count : ExpansionCount}
    (hgroups : List.Forall₂ (UnifyBlock.Resolves context) blocks count.groups) {tokens : List ChosenToken}
    (hmet : ∀ t ∈ tokens, ∀ b, t.block = some b → b ∈ blocks) {p : CompiledPattern}
    (h : pattern ruleId count caseSensitive (tokens.map (·.planned blocks)) = .ok p) :
    ∃ elements, List.Forall₂ (IsElementOf context caseSensitive blocks.idxOf) tokens elements ∧
      p = ⟨closeGroups elements, (List.range count.positions).map fun n => tokens.countP (·.position == n),
        markerSpan (tokens.map (·.planned blocks))⟩ := by
  obtain ⟨elements, helements, h⟩ := bind_eq_ok.mp h
  obtain rfl := pure_eq_ok.mp h
  refine ⟨elements, ?_, ?_⟩
  · have hplanned := List.forall₂_map_left_iff.mp (forall₂_of_mapM_eq_ok helements)
    refine ((List.forall₂_and_left _ _).mpr ⟨hmet, hplanned⟩).imp fun t e ⟨ht, he⟩ => ?_
    obtain ⟨own, hown, he⟩ := bind_eq_ok.mp he
    obtain rfl := pure_eq_ok.mp he
    exact isElementOf_inGroup hgroups ht (mapError_eq_ok.mp hown)
  · simp only [List.countP_map, Function.comp_def, ChosenToken.planned]

theorem isSiblingOf_pattern {context : RuleContext} {ruleId : String} {d : PatternDef} {ways : List Selection}
    {tally : Tally} (hderives : Derives context (.items .root d.items) ⟨false, []⟩ ways tally) {count : ExpansionCount}
    (hgroups : List.Forall₂ (UnifyBlock.Resolves context) tally.blocks count.groups)
    (hpositions : count.positions = positionCounts d.items) {way : Selection} (hway : way ∈ ways) {p : CompiledPattern}
    (h : pattern ruleId count d.caseSensitive (way.tokens.map (·.planned tally.blocks)) = .ok p) :
    IsSiblingOf context d tally.blocks.idxOf way.tokens p := by
  have hmet := hderives.block_mem (fun _ hb => nomatch hb) way hway
  obtain ⟨elements, helements, rfl⟩ := exists_elements_of_pattern hgroups hmet h
  refine ⟨forall₂_closeGroups helements, by rw [hpositions], fun k hk => ?_⟩
  have hcontiguous : Contiguous (fun t : PlannedToken => t.inMarker = true)
      (way.tokens.map (·.planned tally.blocks)) := (hderives.contiguous_inMarker way hway).map
  rw [contains_markerSpan hcontiguous (by rwa [List.length_map]), List.getElem_map, List.forall_mem_map]
  rfl

/-- The siblings are made from the tokens of the ways, unless the pattern takes no position. -/
theorem exists_ways_of_patterns {context : RuleContext} {ruleId : String} {d : PatternDef} {ps : List CompiledPattern}
    (h : patterns context ruleId d = .ok ps) :
    ∃ ways tally count, Derives context (.items .root d.items) ⟨false, []⟩ ways tally ∧
      List.Forall₂ (UnifyBlock.Resolves context) tally.blocks count.groups ∧
      count.positions = positionCounts d.items ∧
      if count.positions = 0 then ps = [] else List.Forall₂ (fun way p =>
        pattern ruleId count d.caseSensitive (way.tokens.map (·.planned tally.blocks)) = .ok p) ways ps := by
  unfold patterns at h
  obtain ⟨⟨sequences, count⟩, hexpand, h⟩ := bind_eq_ok.mp h
  obtain ⟨ways, tally, hderives, rfl, hgroups, hpositions⟩ := RuleContext.expand_eq_ok (mapError_eq_ok.mp hexpand)
  refine ⟨ways, tally, count, hderives, hgroups, hpositions, ?_⟩
  dsimp only at h
  split at h
  case isTrue hzero =>
    rw [if_pos hzero]
    exact (pure_eq_ok.mp h).symm
  case isFalse hpos =>
    rw [if_neg hpos]
    exact List.forall₂_map_left_iff.mp (forall₂_of_mapM_eq_ok h)

/-- Each sibling is made from the tokens of a way. -/
theorem exists_way_of_patterns {context : RuleContext} {ruleId : String} {d : PatternDef} {ps : List CompiledPattern}
    (h : patterns context ruleId d = .ok ps) {p : CompiledPattern} (hp : p ∈ ps) :
    ∃ ways tally count, Derives context (.items .root d.items) ⟨false, []⟩ ways tally ∧
      List.Forall₂ (UnifyBlock.Resolves context) tally.blocks count.groups ∧
      count.positions = positionCounts d.items ∧
      ∃ way ∈ ways, pattern ruleId count d.caseSensitive (way.tokens.map (·.planned tally.blocks)) = .ok p := by
  obtain ⟨ways, tally, count, hderives, hgroups, hpositions, hways⟩ := exists_ways_of_patterns h
  refine ⟨ways, tally, count, hderives, hgroups, hpositions, ?_⟩
  split at hways
  · exact absurd (hways ▸ hp) List.not_mem_nil
  · obtain ⟨k, hk, rfl⟩ := List.getElem_of_mem hp
    obtain ⟨hlength, hget⟩ := List.forall₂_iff_get.mp hways
    have hk' : k < ways.length := hlength ▸ hk
    exact ⟨ways[k], List.getElem_mem hk', hget k hk' hk⟩

/-- The blocks in which tokens of a pattern stand. -/
def blocksOf (context : RuleContext) (items : List PatternItem) : Set UnifyBlock :=
  { b | ∃ choice tokens, Chosen context .root items choice tokens ∧ ∃ t ∈ tokens, t.block = some b }

/-- The siblings of a pattern correspond to the ways to choose in it. -/
theorem siblings_are_choices {source : String} {file : RuleFile} (hread : RuleFile.read source = .ok file)
    {d : PatternDef} (hd : d ∈ file.patterns) {context : RuleContext} {ruleId : String} {siblings : List CompiledPattern}
    (h : patterns context ruleId d = .ok siblings) :
    ∃ number : UnifyBlock → Nat, Set.InjOn number (blocksOf context d.items) ∧
      ∃ choice : Fin siblings.length ≃ { c // ∃ tokens, Chosen context .root d.items c tokens },
        ∀ i tokens, Chosen context .root d.items (choice i) tokens →
          IsSiblingOf context d number tokens siblings[i] := by
  unfold patterns at h
  obtain ⟨⟨sequences, count⟩, hexpand, h⟩ := bind_eq_ok.mp h
  obtain ⟨ways, tally, hderives, rfl, hgroups, hpositions⟩ := RuleContext.expand_eq_ok (mapError_eq_ok.mp hexpand)
  -- Without positions there would be no sibling at all, but a file has no such pattern.
  have hpos : count.positions ≠ 0 := by
    rw [hpositions]
    exact Nat.pos_iff_ne_zero.mp (RuleFile.positionCounts_pos hread d hd)
  dsimp only at h
  rw [if_neg hpos] at h
  have hsiblings := List.forall₂_map_left_iff.mp (forall₂_of_mapM_eq_ok h)
  have hlength : siblings.length = (ways.map (·.choice)).length := by rw [List.length_map, hsiblings.length_eq]
  have hmem (c : List Nat) : c ∈ ways.map (·.choice) ↔ ∃ tokens, Chosen context .root d.items c tokens := by
    rw [List.mem_map]
    constructor
    · rintro ⟨way, hway, rfl⟩
      exact ⟨way.tokens, (hderives.mem_iff way).mp hway⟩
    · rintro ⟨tokens, hchosen⟩
      exact ⟨⟨c, tokens⟩, (hderives.mem_iff ⟨c, tokens⟩).mpr hchosen, rfl⟩
  refine ⟨tally.blocks.idxOf, ?_, (finCongr hlength).trans
    ((hderives.nodup_choices.getEquiv _).trans (Equiv.subtypeEquivRight hmem)), ?_⟩
  · rintro b ⟨choice, tokens, hchosen, t, ht, hb⟩ b' - heq
    have hway : ⟨choice, tokens⟩ ∈ ways := (hderives.mem_iff ⟨choice, tokens⟩).mpr hchosen
    have hmet := hderives.block_mem (fun _ hb => nomatch hb) _ hway t ht b hb
    exact (List.idxOf_inj hmet).mp heq
  · intro i tokens hchosen
    have hi : i < ways.length := by rw [hsiblings.length_eq]; exact i.isLt
    have hchosen' : Chosen context .root d.items ways[i].choice tokens := by
      have hget : (ways.map (·.choice)).get (Fin.cast hlength i) = ways[i].choice := List.getElem_map _
      rw [← hget]
      exact hchosen
    have hway : ⟨ways[i].choice, tokens⟩ ∈ ways := (hderives.mem_iff ⟨ways[i].choice, tokens⟩).mpr hchosen'
    -- A way is known by its choice, so these tokens are the ones that were kept.
    have hsame := List.inj_on_of_nodup_map hderives.nodup_choices (List.getElem_mem hi) hway rfl
    have htokens : ways[i].tokens = tokens := congrArg Selection.tokens hsame
    have hpattern := (List.forall₂_iff_get.mp hsiblings).2 i hi i.isLt
    rw [← htokens]
    exact isSiblingOf_pattern hderives hgroups hpositions (List.getElem_mem hi) hpattern

/-- A phrase with two alternatives of different lengths, in a marker and a block of agreement. -/
def twoAlternatives : String :=
  "unification f \x7b a = pos=\"A\"; \x7d phrase p \x7b [pos=\"X\"] | [pos=\"Y\"] [pos=\"Z\"] \x7d " ++
    "rule r \x7b pattern \x7b [pos=\"A\"] marker \x7b unify(f) \x7b [pos=\"B\"] @p \x7d \x7d \x7d \x7d"

theorem siblings_of_twoAlternatives :
    ∃ file d context siblings, RuleFile.read twoAlternatives = .ok file ∧ d ∈ file.patterns ∧
      RuleContext.ofFile file = .ok context ∧ patterns context "r" d = .ok siblings ∧ siblings.length = 2 ∧
      ∃ number : UnifyBlock → Nat, Set.InjOn number (blocksOf context d.items) ∧
        ∃ choice : Fin siblings.length ≃ { c // ∃ tokens, Chosen context .root d.items c tokens },
          ∀ i tokens, Chosen context .root d.items (choice i) tokens →
            IsSiblingOf context d number tokens siblings[i] := by
  have hrun : ((RuleFile.read twoAlternatives).toOption.bind fun file => file.patterns.head?.bind fun d =>
      (RuleContext.ofFile file).toOption.bind fun context =>
        (patterns context "r" d).toOption.map (·.length)) = some 2 := by decide +kernel
  obtain ⟨file, hread, hrun⟩ := Option.bind_eq_some_iff.mp hrun
  obtain ⟨d, hhead, hrun⟩ := Option.bind_eq_some_iff.mp hrun
  obtain ⟨context, hcontext, hrun⟩ := Option.bind_eq_some_iff.mp hrun
  obtain ⟨siblings, hsiblings, hlength⟩ := Option.map_eq_some_iff.mp hrun
  rw [toOption_eq_some] at hread hcontext hsiblings
  have hd : d ∈ file.patterns := List.mem_of_head? hhead
  exact ⟨file, d, context, siblings, hread, hd, hcontext, hsiblings, hlength, siblings_are_choices hread hd hsiblings⟩

end Compile

end GrammarCheck
