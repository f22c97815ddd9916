import GrammarCheck.Proofs.Rule.Derivation
import GrammarCheck.Proofs.Success

/-! The expansion of a pattern follows a derivation. Blocks are numbered in the order in which they are met, and the
sequences of a part continue those before it by the tokens of each way through the part. -/

namespace GrammarCheck

open Success

/-- A token as it is planned; its block is given by number. -/
def ChosenToken.planned (blocks : List UnifyBlock) (t : ChosenToken) : PlannedToken :=
  ⟨t.group, t.position, t.inMarker, t.block.map blocks.idxOf⟩

/-- A group of agreement has the features that a block names. -/
structure UnifyBlock.Resolves (context : RuleContext) (b : UnifyBlock) (g : AgreementGroup) : Prop where
  features : List.Forall₂ (fun name i => context.features.index? name = some i) b.features g.features
  negate : g.negate = b.negate

namespace Part

/-- Where the first tokens of a part stand. -/
def entry : Part → Place
  | .item place _ => place
  | .items place _ => place
  | .alternatives place first _ => place.inAlternative first

/-- The positions that a part takes. That of a phrase has been taken by the reference. -/
def positionCount : Part → Nat
  | .item _ content => content.positionCount
  | .items _ content => positionCounts content
  | .alternatives _ _ _ => 0

end Part

namespace Expansion

variable {context : RuleContext} {enter : Option (Surroundings → List PatternItem → Sequences → Expander Sequences)}
  {around : Surroundings} {sequences : Sequences} {count : ExpansionCount} {outcome : Sequences × ExpansionCount}

section Success

theorem fail_ne_ok {α : Type} {location : Location} {fault : CompileFault} {outcome : α × ExpansionCount} :
    fail location fault count ≠ .ok outcome := by
  simp [fail]

theorem featureIndices_eq_ok {location : Location} {names : List String} {features : List Nat}
    {count' : ExpansionCount} (h : featureIndices context location names count = .ok (features, count')) :
    List.Forall₂ (fun name i => context.features.index? name = some i) names features ∧ count' = count := by
  induction names generalizing features count' with
  | nil =>
    obtain ⟨rfl, rfl⟩ := Prod.mk.inj (run_pure_eq_ok.mp h)
    exact ⟨.nil, rfl⟩
  | cons name rest ih =>
    rw [featureIndices] at h
    cases hi : context.features.index? name with
    | none =>
      rw [hi] at h
      exact absurd h fail_ne_ok
    | some i =>
      rw [hi] at h
      obtain ⟨others, count₁, hothers, hpure⟩ := run_bind_eq_ok.mp h
      obtain ⟨hrest, rfl⟩ := ih hothers
      obtain ⟨rfl, rfl⟩ := Prod.mk.inj (run_pure_eq_ok.mp hpure)
      exact ⟨.cons hi hrest, rfl⟩

theorem item_tokens_eq_ok {group : TokenGroup}
    (h : item context enter around (.tokens group) sequences count = .ok outcome) :
    ∃ position, takePosition around count = .ok (position, outcome.2) ∧
      outcome.1 = sequences.map (· ++ [⟨group, position, around.inMarker, around.agreement⟩]) := by
  rw [item] at h
  obtain ⟨position, count', hposition, h⟩ := run_bind_eq_ok.mp h
  obtain rfl := run_pure_eq_ok.mp h
  exact ⟨position, hposition, rfl⟩

theorem item_phrase_eq_ok {name : String} {location : Location}
    (h : item context enter around (.phrase name location) sequences count = .ok outcome) :
    ∃ phrase enter' position count', context.phrase? name = some phrase ∧ enter = some enter' ∧
      takePosition around count = .ok (position, count') ∧
      alternatives (enter' { around with phrase := some (position, name) }) sequences phrase.alternatives count' =
        .ok outcome := by
  rw [item] at h
  cases hphrase : context.phrase? name with
  | none =>
    rw [hphrase] at h
    exact absurd h fail_ne_ok
  | some phrase =>
    rw [hphrase] at h
    cases enter with
    | none => exact absurd h fail_ne_ok
    | some enter' =>
      dsimp only at h
      split at h
      · exact absurd h fail_ne_ok
      · obtain ⟨position, count', hposition, h⟩ := run_bind_eq_ok.mp h
        exact ⟨phrase, enter', position, count', rfl, rfl, hposition, h⟩

theorem item_marker_eq_ok {inner : List PatternItem} {location : Location}
    (h : item context enter around (.marker inner location) sequences count = .ok outcome) :
    around.phrase = none ∧ count.markerSeen = false ∧
      items context enter { around with inMarker := true } inner sequences { count with markerSeen := true } =
        .ok outcome := by
  rw [item] at h
  obtain ⟨count', _, hget, h⟩ := run_bind_eq_ok.mp h
  obtain ⟨rfl, rfl⟩ := Prod.mk.inj (run_pure_eq_ok.mp hget)
  by_cases hguard : (count.markerSeen || around.phrase.isSome) = true
  · rw [if_pos hguard] at h
    obtain ⟨_, _, hfail, -⟩ := run_bind_eq_ok.mp h
    exact absurd hfail fail_ne_ok
  · rw [if_neg hguard] at h
    obtain ⟨_, count', hset, h⟩ := run_bind_eq_ok.mp h
    obtain ⟨-, rfl⟩ := Prod.mk.inj (run_pure_eq_ok.mp hset)
    rw [Bool.or_eq_true, not_or, Bool.not_eq_true, Bool.not_eq_true, Option.isSome_eq_false_iff,
      Option.isNone_iff_eq_none] at hguard
    exact ⟨hguard.2, hguard.1, h⟩

theorem item_unify_eq_ok {names : List String} {negate : Bool} {inner : List PatternItem} {location : Location}
    (h : item context enter around (.unify names negate inner location) sequences count = .ok outcome) :
    ∃ features, around.agreement = none ∧
      List.Forall₂ (fun name i => context.features.index? name = some i) names features ∧
      items context enter { around with agreement := some count.groups.length } inner sequences
        { count with groups := count.groups ++ [⟨features, negate⟩] } = .ok outcome := by
  rw [item] at h
  cases hagreement : around.agreement with
  | some g =>
    rw [hagreement] at h
    obtain ⟨_, _, hfail, -⟩ := run_bind_eq_ok.mp h
    exact absurd hfail fail_ne_ok
  | none =>
    rw [hagreement, if_neg (by simp)] at h
    obtain ⟨features, _, hfeatures, hrest⟩ := run_bind_eq_ok.mp h
    obtain ⟨hresolved, rfl⟩ := featureIndices_eq_ok hfeatures
    obtain ⟨group, _, hgroup, hinner⟩ := run_bind_eq_ok.mp hrest
    obtain ⟨rfl, rfl⟩ := Prod.mk.inj (Except.ok.inj hgroup)
    exact ⟨features, rfl, hresolved, hinner⟩

end Success

/-- The sequences that continue others by the tokens of each way. -/
def continued (blocks : List UnifyBlock) (ways : List Selection) (sequences : Sequences) : Sequences :=
  ways.flatMap fun way => sequences.map (· ++ way.tokens.map (·.planned blocks))

/-- The number of a block does not change when further blocks are met. -/
theorem map_idxOf_append {blocks : List UnifyBlock} {block : Option UnifyBlock} (h : ∀ b, block = some b → b ∈ blocks)
    (met : List UnifyBlock) : block.map (blocks ++ met).idxOf = block.map blocks.idxOf := by
  cases block with
  | none => rfl
  | some b => rw [Option.map_some, Option.map_some, List.idxOf_append_of_mem (h b rfl)]

theorem planned_append {blocks : List UnifyBlock} {t : ChosenToken} (h : ∀ b, t.block = some b → b ∈ blocks)
    (met : List UnifyBlock) : t.planned (blocks ++ met) = t.planned blocks := by
  rw [ChosenToken.planned, ChosenToken.planned, map_idxOf_append h]

theorem continued_append {blocks : List UnifyBlock} {ways : List Selection}
    (h : ∀ way ∈ ways, ∀ t ∈ way.tokens, ∀ b, t.block = some b → b ∈ blocks) (met : List UnifyBlock)
    (sequences : Sequences) : continued (blocks ++ met) ways sequences = continued blocks ways sequences := by
  refine List.flatMap_congr fun way hway => ?_
  rw [List.map_congr_left fun t ht => planned_append (h way hway t ht) met]

theorem continued_combine (blocks : List UnifyBlock) (first later : List Selection) (sequences : Sequences) :
    continued blocks (Selection.combine first later) sequences =
      continued blocks later (continued blocks first sequences) := by
  simp only [continued, Selection.combine, Selection.append, List.flatMap_assoc, List.flatMap_map, List.map_flatMap,
    List.map_map, List.map_append, Function.comp_def, List.append_assoc]

theorem continued_taking (blocks : List UnifyBlock) (k : Nat) (ways : List Selection) (sequences : Sequences) :
    continued blocks (ways.map (·.taking k)) sequences = continued blocks ways sequences := List.flatMap_map ..

/-- What the expansion holds where a part begins is right, and no block of the part has been met. -/
structure Ready (context : RuleContext) (part : Part) (tally : Tally) (around : Surroundings)
    (count : ExpansionCount) : Prop where
  inMarker : around.inMarker = part.entry.inMarker
  agreement : around.agreement = part.entry.block.map tally.blocks.idxOf
  phrase : around.phrase.map (·.1) = if part.entry.inPhrase then some part.entry.position else none
  position : part.entry.inPhrase = false → count.positions = part.entry.position
  block : ∀ b, part.entry.block = some b → b ∈ tally.blocks
  markerSeen : count.markerSeen = tally.markerSeen
  groups : List.Forall₂ (UnifyBlock.Resolves context) tally.blocks count.groups
  fresh : ∀ b ∈ tally.blocks, ¬part.Holds b.address

/-- What the expansion of a part gives, told by a derivation. -/
structure Expands (context : RuleContext) (part : Part) (tally : Tally) (count : ExpansionCount)
    (sequences : Sequences) (outcome : Sequences × ExpansionCount) (ways : List Selection) (tally' : Tally) : Prop where
  derives : Derives context part tally ways tally'
  sequences : outcome.1 = continued tally'.blocks ways sequences
  markerSeen : outcome.2.markerSeen = tally'.markerSeen
  groups : List.Forall₂ (UnifyBlock.Resolves context) tally'.blocks outcome.2.groups
  positions : outcome.2.positions = if part.entry.inPhrase then count.positions else count.positions + part.positionCount

/-- Items are expanded along a derivation wherever they stand. -/
def Sound (context : RuleContext) (run : Surroundings → List PatternItem → Sequences → Expander Sequences) : Prop :=
  ∀ place pattern tally around count sequences outcome, Ready context (.items place pattern) tally around count →
    run around pattern sequences count = .ok outcome →
      ∃ ways tally', Expands context (.items place pattern) tally count sequences outcome ways tally'

section Steps

variable {tally tally' : Tally} {place : Place} {ways : List Selection}

theorem Ready.first {first : PatternItem} {rest : List PatternItem}
    (h : Ready context (.items place (first :: rest)) tally around count) :
    Ready context (.item place first) tally around count where
  __ := h
  fresh b hb hholds := h.fresh b hb ⟨place.index, Nat.le_refl _, hholds⟩

/-- Behind an item, what was met in it belongs to it and not to the items that follow. -/
theorem Ready.rest {first : PatternItem} {rest : List PatternItem}
    (h : Ready context (.items place (first :: rest)) tally around count)
    (hfirst : Expands context (.item place first) tally count sequences outcome ways tally') :
    Ready context (.items (place.next first) rest) tally' around outcome.2 := by
  obtain ⟨met, hmet, -, hholds⟩ := hfirst.derives.exists_blocks
  refine ⟨h.inMarker, ?_, ?_, ?_, ?_, hfirst.markerSeen, hfirst.groups, ?_⟩
  · rw [h.agreement, hmet]
    exact (map_idxOf_append h.block met).symm
  · rw [h.phrase]
    cases hin : place.inPhrase <;> simp [Part.entry, Place.next, hin]
  · intro hin
    have hout : place.inPhrase = false := hin
    have hpositions := hfirst.positions
    have hposition : count.positions = place.position := h.position hout
    simp only [Part.entry, hout, Bool.false_eq_true, if_false, Part.positionCount] at hpositions
    simp only [Part.entry, Place.next, hout, Bool.false_eq_true, if_false, hpositions, hposition]
  · intro b hb
    rw [hmet]
    exact List.mem_append_left _ (h.block b hb)
  · intro b hb hlater
    obtain ⟨k, hk, hsuffix⟩ := hlater
    have hnext : place.index + 1 ≤ k := hk
    rw [hmet] at hb
    rcases List.mem_append.mp hb with hb | hb
    · exact h.fresh b hb ⟨k, Nat.le_of_succ_le hk, hsuffix⟩
    · have hindex : place.index = k := Derives.eq_of_cons_suffix (hholds b hb) hsuffix
      omega

theorem Ready.takePosition {item : PatternItem} {position : Nat} {count' : ExpansionCount}
    (h : Ready context (.item place item) tally around count)
    (hposition : takePosition around count = .ok (position, count')) :
    position = place.position ∧
      count' = { count with positions := if place.inPhrase then count.positions else count.positions + 1 } := by
  have hphrase : around.phrase.map (·.1) = if place.inPhrase then some place.position else none := h.phrase
  unfold Expansion.takePosition at hposition
  split at hposition
  case h_1 p name hsome =>
    obtain ⟨rfl, rfl⟩ := Prod.mk.inj (Except.ok.inj hposition)
    cases hin : place.inPhrase with
    | true =>
      rw [hsome, hin] at hphrase
      exact ⟨Option.some_inj.mp hphrase, by simp⟩
    | false =>
      rw [hsome, hin] at hphrase
      exact nomatch hphrase
  case h_2 hnone =>
    obtain ⟨rfl, rfl⟩ := Prod.mk.inj (Except.ok.inj hposition)
    cases hin : place.inPhrase with
    | true =>
      rw [hnone, hin] at hphrase
      exact nomatch hphrase
    | false => exact ⟨h.position hin, by simp⟩

theorem Ready.alternatives {name : String} {location : Location} {content : List (List PatternItem)}
    (h : Ready context (.item place (.phrase name location)) tally around count) (positions : Nat) :
    Ready context (.alternatives place 0 content) tally { around with phrase := some (place.position, name) }
      { count with positions } := by
  refine ⟨h.inMarker, h.agreement, rfl, (fun hout => nomatch hout), h.block, h.markerSeen, h.groups, ?_⟩
  rintro b hb ⟨k, -, hsuffix⟩
  exact h.fresh b hb (Derives.suffix_of_cons_suffix hsuffix)

theorem Ready.marker {items : List PatternItem} {location : Location}
    (h : Ready context (.item place (.marker items location)) tally around count) :
    Ready context (.items place.marked items) { tally with markerSeen := true } { around with inMarker := true }
      { count with markerSeen := true } := by
  refine ⟨rfl, h.agreement, h.phrase, h.position, h.block, rfl, h.groups, ?_⟩
  rintro b hb ⟨k, -, hsuffix⟩
  exact h.fresh b hb (Derives.suffix_of_cons_suffix hsuffix)

theorem Ready.unify {names : List String} {negate : Bool} {items : List PatternItem} {location : Location}
    {features : List Nat} (h : Ready context (.item place (.unify names negate items location)) tally around count)
    (hfeatures : List.Forall₂ (fun name i => context.features.index? name = some i) names features) :
    Ready context (.items (place.unified names negate) items)
      { tally with blocks := tally.blocks ++ [place.unifyBlock names negate] }
      { around with agreement := some count.groups.length }
      { count with groups := count.groups ++ [⟨features, negate⟩] } := by
  -- The address of the block is that of the item, and no block of the item has been met.
  have hnew : place.unifyBlock names negate ∉ tally.blocks := fun hmem => h.fresh _ hmem (List.suffix_refl _)
  refine ⟨h.inMarker, ?_, h.phrase, h.position, ?_, h.markerSeen, ?_, ?_⟩
  · show some count.groups.length = some (List.idxOf _ _)
    rw [List.idxOf_append_of_notMem hnew, List.idxOf_cons_self, Nat.add_zero, h.groups.length_eq]
  · intro b hb
    rw [← Option.some_inj.mp hb]
    exact List.mem_append_right _ (List.mem_singleton_self _)
  · exact List.rel_append h.groups (.cons ⟨hfeatures, rfl⟩ .nil)
  · rintro b hb ⟨k, -, hsuffix⟩
    rcases List.mem_append.mp hb with hb | hb
    · exact h.fresh b hb (Derives.suffix_of_cons_suffix hsuffix)
    · rw [List.mem_singleton.mp hb] at hsuffix
      exact absurd hsuffix.length_le (by simp [Place.unified, Place.unifyBlock])

theorem Ready.alternative {k : Nat} {items : List PatternItem} {rest : List (List PatternItem)}
    (h : Ready context (.alternatives place k (items :: rest)) tally around count) :
    Ready context (.items (place.inAlternative k) items) tally around count where
  __ := h
  fresh b hb := by
    rintro ⟨_, -, hsuffix⟩
    exact h.fresh b hb ⟨k, Nat.le_refl _, Derives.suffix_of_cons_suffix hsuffix⟩

theorem Ready.others {k : Nat} {items : List PatternItem} {rest : List (List PatternItem)}
    (h : Ready context (.alternatives place k (items :: rest)) tally around count)
    (hfirst : Expands context (.items (place.inAlternative k) items) tally count sequences outcome ways tally') :
    Ready context (.alternatives place (k + 1) rest) tally' around outcome.2 := by
  obtain ⟨met, hmet, -, hholds⟩ := hfirst.derives.exists_blocks
  refine ⟨h.inMarker, ?_, h.phrase, (fun hout => nomatch hout), ?_, hfirst.markerSeen, hfirst.groups, ?_⟩
  · rw [h.agreement, hmet]
    exact (map_idxOf_append h.block met).symm
  · intro b hb
    rw [hmet]
    exact List.mem_append_left _ (h.block b hb)
  · rintro b hb ⟨j, hj, hsuffix⟩
    rw [hmet] at hb
    rcases List.mem_append.mp hb with hb | hb
    · exact h.fresh b hb ⟨j, Nat.le_of_succ_le hj, hsuffix⟩
    · obtain ⟨_, -, hown⟩ := hholds b hb
      have hindex : k = j := Derives.eq_of_cons_suffix (Derives.suffix_of_cons_suffix hown) hsuffix
      omega

/-- Two parts one after another are expanded along a derivation of both. -/
theorem Expands.cons {first : PatternItem} {rest : List PatternItem} {outcome' : Sequences × ExpansionCount}
    {tally₁ : Tally} {later : List Selection}
    (hready : Ready context (.items place (first :: rest)) tally around count)
    (hfirst : Expands context (.item place first) tally count sequences outcome ways tally₁)
    (hrest : Expands context (.items (place.next first) rest) tally₁ outcome.2 outcome.1 outcome' later tally') :
    Expands context (.items place (first :: rest)) tally count sequences outcome' (Selection.combine ways later)
      tally' := by
  obtain ⟨met, hmet, -⟩ := hrest.derives.exists_blocks
  refine ⟨.cons hfirst.derives hrest.derives, ?_, hrest.markerSeen, hrest.groups, ?_⟩
  · rw [hrest.sequences, hfirst.sequences, continued_combine, hmet,
      continued_append (hfirst.derives.block_mem hready.block) met]
  · have hpositions := hfirst.positions
    rw [hrest.positions]
    show (if place.inPhrase then outcome.2.positions else outcome.2.positions + positionCounts rest) =
      if place.inPhrase then count.positions else count.positions + (first.positionCount + positionCounts rest)
    cases hin : place.inPhrase with
    | true => simpa [Part.entry, hin] using hpositions
    | false =>
      simp only [Part.entry, Part.positionCount, hin, Bool.false_eq_true, if_false] at hpositions ⊢
      rw [hpositions, Nat.add_assoc]

theorem Expands.alternative {k : Nat} {items : List PatternItem} {rest : List (List PatternItem)}
    {outcome' : Sequences × ExpansionCount} {tally₁ : Tally} {others : List Selection}
    (hready : Ready context (.alternatives place k (items :: rest)) tally around count)
    (hfirst : Expands context (.items (place.inAlternative k) items) tally count sequences outcome ways tally₁)
    (hrest : Expands context (.alternatives place (k + 1) rest) tally₁ outcome.2 sequences outcome' others tally') :
    Expands context (.alternatives place k (items :: rest)) tally count sequences (outcome.1 ++ outcome'.1, outcome'.2)
      (ways.map (·.taking k) ++ others) tally' := by
  obtain ⟨met, hmet, -⟩ := hrest.derives.exists_blocks
  refine ⟨.alternative hfirst.derives hrest.derives, ?_, hrest.markerSeen, hrest.groups, ?_⟩
  · have hblocks := hfirst.derives.block_mem hready.block
    show outcome.1 ++ outcome'.1 = List.flatMap _ (_ ++ _)
    rw [List.flatMap_append]
    show _ = continued _ _ _ ++ continued _ _ _
    rw [continued_taking, ← hrest.sequences, hmet, continued_append hblocks met, ← hfirst.sequences]
  · exact hrest.positions.trans hfirst.positions

end Steps

theorem expands_alternatives {run : Surroundings → List PatternItem → Sequences → Expander Sequences}
    (hrun : Sound context run) {place : Place} {k : Nat} {content : List (List PatternItem)} {tally : Tally}
    (hready : Ready context (.alternatives place k content) tally around count)
    (h : alternatives (run around) sequences content count = .ok outcome) :
    ∃ ways tally', Expands context (.alternatives place k content) tally count sequences outcome ways tally' := by
  induction content generalizing k tally count outcome with
  | nil =>
    obtain rfl := run_pure_eq_ok.mp h
    exact ⟨[], tally, .noAlternative, rfl, hready.markerSeen, hready.groups, rfl⟩
  | cons items rest ih =>
    rw [alternatives] at h
    obtain ⟨first, count₁, hfirst, h⟩ := run_bind_eq_ok.mp h
    obtain ⟨others, count₂, hothers, h⟩ := run_bind_eq_ok.mp h
    obtain rfl := run_pure_eq_ok.mp h
    obtain ⟨ways, tally₁, hexpands⟩ := hrun _ _ _ _ _ _ _ hready.alternative hfirst
    obtain ⟨later, tally₂, hlater⟩ := ih (hready.others hexpands) hothers
    exact ⟨_, _, hexpands.alternative hready hlater⟩

mutual

theorem expands_item (henter : ∀ run, enter = some run → Sound context run) (content : PatternItem) {place : Place}
    {tally : Tally} {around : Surroundings} {sequences : Sequences} {count : ExpansionCount}
    {outcome : Sequences × ExpansionCount} (hready : Ready context (.item place content) tally around count)
    (h : item context enter around content sequences count = .ok outcome) :
    ∃ ways tally', Expands context (.item place content) tally count sequences outcome ways tally' := by
  cases content with
  | tokens group =>
    obtain ⟨position, hposition, hsequences⟩ := item_tokens_eq_ok h
    obtain ⟨rfl, hcount⟩ := hready.takePosition hposition
    refine ⟨_, _, .tokens, ?_, ?_, ?_, ?_⟩
    · rw [hsequences, hready.inMarker, hready.agreement]
      simp [continued, ChosenToken.planned, Place.token, Part.entry]
    · rw [hcount]
      exact hready.markerSeen
    · rw [hcount]
      exact hready.groups
    · rw [hcount]
      rfl
  | phrase name location =>
    -- The items of the phrase are expanded on the next level, not by this recursion.
    obtain ⟨phrase, run, position, count₁, hphrase, hsome, hposition, h⟩ := item_phrase_eq_ok h
    obtain ⟨rfl, rfl⟩ := hready.takePosition hposition
    obtain ⟨ways, tally', hexpands⟩ := expands_alternatives (henter run hsome) (hready.alternatives _) h
    exact ⟨ways, tally', .phrase hphrase hexpands.derives, hexpands.sequences, hexpands.markerSeen, hexpands.groups,
      hexpands.positions⟩
  | marker inner location =>
    obtain ⟨hnone, hunseen, h⟩ := item_marker_eq_ok h
    obtain ⟨ways, tally', hexpands⟩ := expands_items henter inner hready.marker h
    have hout : place.inPhrase = false := by
      have hphrase := hready.phrase
      rw [hnone] at hphrase
      cases hin : place.inPhrase with
      | false => rfl
      | true => simp [Part.entry, hin] at hphrase
    exact ⟨ways, tally', .marker hout (hready.markerSeen.symm.trans hunseen) hexpands.derives, hexpands.sequences,
      hexpands.markerSeen, hexpands.groups, hexpands.positions⟩
  | unify names negate inner location =>
    obtain ⟨features, hnone, hfeatures, h⟩ := item_unify_eq_ok h
    obtain ⟨ways, tally', hexpands⟩ := expands_items henter inner (hready.unify hfeatures) h
    have hblock : place.block = none := Option.map_eq_none_iff.mp (hready.agreement.symm.trans hnone)
    exact ⟨ways, tally', .unify hblock hexpands.derives, hexpands.sequences, hexpands.markerSeen, hexpands.groups,
      hexpands.positions⟩

theorem expands_items (henter : ∀ run, enter = some run → Sound context run) (content : List PatternItem)
    {place : Place} {tally : Tally} {around : Surroundings} {sequences : Sequences} {count : ExpansionCount}
    {outcome : Sequences × ExpansionCount} (hready : Ready context (.items place content) tally around count)
    (h : items context enter around content sequences count = .ok outcome) :
    ∃ ways tally', Expands context (.items place content) tally count sequences outcome ways tally' := by
  cases content with
  | nil =>
    rw [items] at h
    obtain rfl := run_pure_eq_ok.mp h
    refine ⟨_, _, .nil, ?_, hready.markerSeen, hready.groups, ?_⟩
    · simp [continued]
    · simp [Part.positionCount, positionCounts]
  | cons first rest =>
    rw [items] at h
    obtain ⟨sequences₁, count₁, hfirst, h⟩ := run_bind_eq_ok.mp h
    obtain ⟨ways, tally₁, hexpands⟩ := expands_item henter first hready.first hfirst
    obtain ⟨later, tally₂, hlater⟩ := expands_items henter rest (hready.rest hexpands) h
    exact ⟨_, _, hexpands.cons hready hlater⟩

end

theorem sound_itemsAtDepth (levels : Nat) : Sound context (itemsAtDepth context levels) := by
  induction levels with
  | zero =>
    intro place pattern tally around count sequences outcome hready h
    exact expands_items (fun run hrun => absurd hrun (by simp)) pattern hready h
  | succ levels ih =>
    intro place pattern tally around count sequences outcome hready h
    exact expands_items (fun run hrun => Option.some_inj.mp hrun ▸ ih) pattern hready h

end Expansion

open Expansion in
/-- A pattern that can be expanded has one sequence for each way to choose, and each way is met once. -/
theorem RuleContext.expand_eq_ok {context : RuleContext} {pattern : List PatternItem} {sequences : Sequences}
    {count : ExpansionCount} (h : context.expand pattern = .ok (sequences, count)) :
    ∃ ways tally, Derives context (.items .root pattern) ⟨false, []⟩ ways tally ∧
      sequences = ways.map (·.tokens.map (·.planned tally.blocks)) ∧
      List.Forall₂ (UnifyBlock.Resolves context) tally.blocks count.groups ∧
      count.positions = positionCounts pattern := by
  have hready : Ready context (.items .root pattern) ⟨false, []⟩ {} {} :=
    ⟨rfl, rfl, rfl, fun _ => rfl, (fun _ hb => nomatch hb), rfl, .nil, fun _ hb => nomatch hb⟩
  obtain ⟨ways, tally, hexpands⟩ := sound_itemsAtDepth maxPhraseDepth _ _ _ _ _ _ _ hready h
  refine ⟨ways, tally, hexpands.derives, ?_, hexpands.groups, ?_⟩
  · have hsequences := hexpands.sequences
    rw [List.map_eq_flatMap]
    simpa [continued] using hsequences
  · have hpositions := hexpands.positions
    simpa [Part.entry, Place.root, Part.positionCount] using hpositions

end GrammarCheck
