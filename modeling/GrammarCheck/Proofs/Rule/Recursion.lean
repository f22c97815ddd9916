import GrammarCheck.Proofs.Rule.Expansion
import GrammarCheck.Proofs.Rule.Nesting
import GrammarCheck.Rule.Compile

/-! Recursion in phrases. A phrase may refer to others, and these to it, so the expansion of a pattern counts how deep it is
in phrases and gives up at a highest depth. What it gives up at are references that stand inside of one another that deep,
and phrases that refer to themselves; what leads to a cycle has chains of any length, so it is never expanded. -/

namespace GrammarCheck

open Success

/-- The failure of a pattern at a reference that is not entered. -/
def PhraseReference.failure (r : PhraseReference) : Location × CompileFault := (r.location, .recursivePhrase r.name)

def CompileFault.isRecursion : CompileFault → Bool
  | recursivePhrase _ => true
  | _ => false

namespace Expansion

variable {context : RuleContext} {enter : Option (Surroundings → List PatternItem → Sequences → Expander Sequences)}
  {around : Surroundings} {sequences : Sequences} {count : ExpansionCount} {outcome : Sequences × ExpansionCount}
  {body : List PatternItem → Sequences → Expander Sequences} {content : List (List PatternItem)}
  {pattern : List PatternItem} {chain : List PhraseReference} {r : PhraseReference}

section Depth

/-- The expansion with its depth counted upwards: a phrase is entered as long as the count is below the highest depth. -/
def CountsDepth (context : RuleContext) (run : Nat → Surroundings → List PatternItem → Sequences → Expander Sequences) :
    Prop :=
  ∀ depth, run depth = items context (if depth < maxPhraseDepth then some (run (depth + 1)) else none)

/-- The recursion that counts its depth comes to an end everywhere: it has one solution, in which the levels that are
left are counted downwards. -/
theorem countsDepth_iff {run : Nat → Surroundings → List PatternItem → Sequences → Expander Sequences} :
    CountsDepth context run ↔ run = fun depth => itemsAtDepth context (maxPhraseDepth - depth) := by
  constructor
  · intro h
    -- By induction on the levels that are left.
    have hlevels (levels : Nat) : ∀ depth, maxPhraseDepth - depth = levels →
        run depth = itemsAtDepth context levels := by
      induction levels with
      | zero =>
        intro depth hdepth
        rw [h depth, if_neg (by omega)]
        rfl
      | succ levels ih =>
        intro depth hdepth
        rw [h depth, if_pos (by omega), ih (depth + 1) (by omega)]
        rfl
    exact funext fun depth => hlevels _ depth rfl
  · rintro rfl depth
    dsimp only
    split
    · rename_i hlt
      obtain ⟨levels, hlevels⟩ : ∃ levels, maxPhraseDepth - depth = levels + 1 := ⟨maxPhraseDepth - (depth + 1), by omega⟩
      rw [hlevels, show maxPhraseDepth - (depth + 1) = levels by omega]
      rfl
    · rename_i hge
      rw [show maxPhraseDepth - depth = 0 by omega]
      rfl

end Depth

section Success

theorem exists_of_alternatives_eq_ok (h : alternatives body sequences content count = .ok outcome) :
    ∀ items ∈ content, ∃ count' outcome', body items sequences count' = .ok outcome' := by
  induction content generalizing count outcome with
  | nil => exact List.forall_mem_nil _
  | cons items rest ih =>
    rw [alternatives] at h
    obtain ⟨first, count₁, hfirst, h⟩ := run_bind_eq_ok.mp h
    obtain ⟨others, count₂, hothers, -⟩ := run_bind_eq_ok.mp h
    exact List.forall_mem_cons.mpr ⟨⟨count, _, hfirst⟩, ih hothers⟩

/-- All alternatives of the phrase have been expanded on the next level. -/
def Entered (context : RuleContext)
    (enter : Option (Surroundings → List PatternItem → Sequences → Expander Sequences)) (r : PhraseReference) : Prop :=
  ∃ phrase run, context.phrase? r.name = some phrase ∧ enter = some run ∧
    ∀ items ∈ phrase.alternatives, ∃ around sequences count outcome, run around items sequences count = .ok outcome

mutual

theorem entered_of_item (content : PatternItem) {around : Surroundings} {sequences : Sequences}
    {count : ExpansionCount} {outcome : Sequences × ExpansionCount}
    (h : item context enter around content sequences count = .ok outcome) :
    ∀ r ∈ content.phraseReferences, Entered context enter r := by
  cases content with
  | tokens group => exact List.forall_mem_nil _
  | phrase name location =>
    obtain ⟨phrase, run, position, count', hphrase, hrun, -, halternatives⟩ := item_phrase_eq_ok h
    refine List.forall_mem_singleton.mpr ⟨phrase, run, hphrase, hrun, fun items hitems => ?_⟩
    obtain ⟨count', outcome', hitems⟩ := exists_of_alternatives_eq_ok halternatives items hitems
    exact ⟨_, _, count', outcome', hitems⟩
  | marker inner location =>
    obtain ⟨-, -, hinner⟩ := item_marker_eq_ok h
    exact entered_of_items inner hinner
  | unify names negate inner location =>
    obtain ⟨_, -, -, hinner⟩ := item_unify_eq_ok h
    exact entered_of_items inner hinner

theorem entered_of_items (content : List PatternItem) {around : Surroundings} {sequences : Sequences}
    {count : ExpansionCount} {outcome : Sequences × ExpansionCount}
    (h : items context enter around content sequences count = .ok outcome) :
    ∀ r ∈ phraseReferences content, Entered context enter r := by
  cases content with
  | nil => exact List.forall_mem_nil _
  | cons first rest =>
    rw [items] at h
    obtain ⟨_, _, hfirst, hrest⟩ := run_bind_eq_ok.mp h
    exact List.forall_mem_append.mpr ⟨entered_of_item first hfirst, entered_of_items rest hrest⟩

end

/-- What has been expanded does not nest deeper than it may. -/
theorem length_le_of_itemsAtDepth {levels : Nat}
    (h : itemsAtDepth context levels around pattern sequences count = .ok outcome)
    (hchain : context.Nested pattern chain) : chain.length ≤ levels := by
  induction levels generalizing around pattern sequences count outcome chain with
  | zero =>
    cases chain with
    | nil => exact Nat.le_refl 0
    | cons r rest =>
      obtain ⟨_, _, -, hrun, -⟩ := entered_of_items pattern h r (hchain.outermost r rfl)
      cases hrun
  | succ levels ih =>
    cases chain with
    | nil => exact Nat.zero_le _
    | cons r rest =>
      cases rest with
      | nil => exact Nat.succ_le_succ (Nat.zero_le levels)
      | cons inner rest =>
        obtain ⟨phrase, run, hphrase, hrun, hinner⟩ := entered_of_items pattern h r (hchain.outermost r rfl)
        obtain ⟨phrase', hphrase', items, hitems, hrest⟩ := hchain.exists_inner
        obtain rfl : phrase' = phrase := Option.some_inj.mp (hphrase'.symm.trans hphrase)
        obtain rfl : itemsAtDepth context levels = run := Option.some_inj.mp hrun
        obtain ⟨_, _, _, _, hok⟩ := hinner items hitems
        exact Nat.succ_le_succ (ih hok hrest)

end Success

section Failure

theorem exists_of_alternatives_eq_error {e : Location × CompileFault}
    (h : alternatives body sequences content count = .error e) :
    ∃ items ∈ content, ∃ count', body items sequences count' = .error e := by
  induction content generalizing count with
  | nil => cases h
  | cons items rest ih =>
    rw [alternatives] at h
    rcases run_bind_eq_error.mp h with hfirst | ⟨_, count₁, -, h⟩
    · exact ⟨items, List.mem_cons_self, count, hfirst⟩
    · rcases run_bind_eq_error.mp h with hrest | ⟨_, _, -, hpure⟩
      · obtain ⟨later, hlater, herror⟩ := ih hrest
        exact ⟨later, List.mem_cons_of_mem items hlater, herror⟩
      · cases hpure

theorem fail_ne_failure {α : Type} {location : Location} {fault : CompileFault} (hfault : fault.isRecursion = false) :
    (fail location fault count : Fallible (α × ExpansionCount)) ≠ .error r.failure := by
  intro h
  rw [(Prod.mk.inj (Except.error.inj h)).2] at hfault
  cases hfault

theorem takePosition_ne_error {e : Location × CompileFault} : takePosition around count ≠ .error e := by
  unfold takePosition
  split <;> exact nofun

theorem featureIndices_ne_failure {location : Location} {names : List String} :
    featureIndices context location names count ≠ .error r.failure := by
  induction names generalizing count with
  | nil => exact nofun
  | cons name rest ih =>
    intro h
    rw [featureIndices] at h
    cases hi : context.features.index? name with
    | none =>
      rw [hi] at h
      exact fail_ne_failure rfl h
    | some i =>
      rw [hi] at h
      rcases run_bind_eq_error.mp h with hrest | ⟨_, _, -, hpure⟩
      · exact ih hrest
      · cases hpure

theorem item_phrase_eq_failure {name : String} {location : Location}
    (h : item context enter around (.phrase name location) sequences count = .error r.failure) :
    (r = ⟨name, location⟩ ∧ (enter = none ∨ ∃ position, around.phrase = some (position, name))) ∨
      ∃ phrase run position, context.phrase? name = some phrase ∧ enter = some run ∧ ∃ items ∈ phrase.alternatives,
        ∃ count', run { around with phrase := some (position, name) } items sequences count' = .error r.failure := by
  have hown {α : Type} {count : ExpansionCount}
      (hfail : (fail location (.recursivePhrase name) count : Fallible (α × ExpansionCount)) = .error r.failure) :
      r = ⟨name, location⟩ := by
    obtain ⟨hlocation, hfault⟩ := Prod.mk.inj (Except.error.inj hfail)
    cases r
    cases hlocation
    cases hfault
    rfl
  rw [item] at h
  cases hphrase : context.phrase? name with
  | none =>
    rw [hphrase] at h
    exact absurd h (fail_ne_failure rfl)
  | some phrase =>
    rw [hphrase] at h
    cases enter with
    | none => exact Or.inl ⟨hown h, Or.inl rfl⟩
    | some run =>
      dsimp only at h
      split at h
      · rename_i haround
        obtain ⟨⟨position, _⟩, hsome, hname⟩ := (Option.any_eq_true _ _).mp haround
        obtain rfl := beq_iff_eq.mp hname
        exact Or.inl ⟨hown h, Or.inr ⟨position, hsome⟩⟩
      · rcases run_bind_eq_error.mp h with hposition | ⟨position, count', -, halternatives⟩
        · exact absurd hposition takePosition_ne_error
        · obtain ⟨items, hitems, count'', herror⟩ := exists_of_alternatives_eq_error halternatives
          exact Or.inr ⟨phrase, run, position, rfl, rfl, items, hitems, count'', herror⟩

theorem item_marker_eq_failure {inner : List PatternItem} {location : Location}
    (h : item context enter around (.marker inner location) sequences count = .error r.failure) :
    ∃ count', items context enter { around with inMarker := true } inner sequences count' = .error r.failure := by
  rw [item] at h
  rcases run_bind_eq_error.mp h with hget | ⟨count', _, -, h⟩
  · cases hget
  · by_cases hguard : (count'.markerSeen || around.phrase.isSome) = true
    · rw [if_pos hguard] at h
      rcases run_bind_eq_error.mp h with hfail | ⟨_, _, hfail, -⟩
      · exact absurd hfail (fail_ne_failure rfl)
      · exact absurd hfail fail_ne_ok
    · rw [if_neg hguard] at h
      rcases run_bind_eq_error.mp h with hset | ⟨_, count'', -, hinner⟩
      · cases hset
      · exact ⟨count'', hinner⟩

theorem item_unify_eq_failure {names : List String} {negate : Bool} {inner : List PatternItem} {location : Location}
    (h : item context enter around (.unify names negate inner location) sequences count = .error r.failure) :
    ∃ group count', items context enter { around with agreement := some group } inner sequences count' =
      .error r.failure := by
  rw [item] at h
  by_cases hguard : around.agreement.isSome = true
  · rw [if_pos hguard] at h
    rcases run_bind_eq_error.mp h with hfail | ⟨_, _, hfail, -⟩
    · exact absurd hfail (fail_ne_failure rfl)
    · exact absurd hfail fail_ne_ok
  · rw [if_neg hguard] at h
    rcases run_bind_eq_error.mp h with hfeatures | ⟨features, _, -, h⟩
    · exact absurd hfeatures featureIndices_ne_failure
    · rcases run_bind_eq_error.mp h with hgroup | ⟨group, count', -, hinner⟩
      · cases hgroup
      · exact ⟨group, count', hinner⟩

/-- Where the expansion of references ends: at one of them, if phrases may not nest further or its phrase is the one around
it, or in the phrase of one of them. -/
inductive StopsAt (context : RuleContext)
    (enter : Option (Surroundings → List PatternItem → Sequences → Expander Sequences))
    (phrase : Option (Nat × String)) (references : List PhraseReference) (r : PhraseReference) : Prop
  | tooDeep (hr : r ∈ references) (henter : enter = none)
  | itself {position} (hr : r ∈ references) (hphrase : phrase = some (position, r.name))
  | inside {outer named run items position around sequences count} (houter : outer ∈ references)
      (hnamed : context.phrase? outer.name = some named) (hrun : enter = some run)
      (hitems : items ∈ named.alternatives) (haround : around.phrase = some (position, outer.name))
      (h : run around items sequences count = .error r.failure)

theorem StopsAt.mono {phrase : Option (Nat × String)} {references references' : List PhraseReference}
    (h : StopsAt context enter phrase references r) (hsubset : references ⊆ references') :
    StopsAt context enter phrase references' r := by
  cases h with
  | tooDeep hr henter => exact .tooDeep (hsubset hr) henter
  | itself hr hphrase => exact .itself (hsubset hr) hphrase
  | inside houter hnamed hrun hitems haround h => exact .inside (hsubset houter) hnamed hrun hitems haround h

mutual

theorem stopsAt_of_item (content : PatternItem) {around : Surroundings} {sequences : Sequences}
    {count : ExpansionCount} (h : item context enter around content sequences count = .error r.failure) :
    StopsAt context enter around.phrase content.phraseReferences r := by
  cases content with
  | tokens group =>
    rw [item] at h
    rcases run_bind_eq_error.mp h with hposition | ⟨_, _, -, hpure⟩
    · exact absurd hposition takePosition_ne_error
    · cases hpure
  | phrase name location =>
    rcases item_phrase_eq_failure h with ⟨rfl, hnone | ⟨position, hphrase⟩⟩ |
      ⟨named, run, position, hnamed, hrun, items, hitems, count', herror⟩
    · exact .tooDeep (List.mem_singleton_self _) hnone
    · exact .itself (List.mem_singleton_self _) hphrase
    · exact .inside (List.mem_singleton_self _) hnamed hrun hitems rfl herror
  | marker inner location =>
    obtain ⟨_, hinner⟩ := item_marker_eq_failure h
    have hstops := stopsAt_of_items inner hinner
    exact hstops
  | unify names negate inner location =>
    obtain ⟨_, _, hinner⟩ := item_unify_eq_failure h
    have hstops := stopsAt_of_items inner hinner
    exact hstops

theorem stopsAt_of_items (content : List PatternItem) {around : Surroundings} {sequences : Sequences}
    {count : ExpansionCount} (h : items context enter around content sequences count = .error r.failure) :
    StopsAt context enter around.phrase (phraseReferences content) r := by
  cases content with
  | nil =>
    rw [items] at h
    cases h
  | cons first rest =>
    rw [items] at h
    rcases run_bind_eq_error.mp h with hfirst | ⟨_, _, -, hrest⟩
    · exact (stopsAt_of_item first hfirst).mono (List.subset_append_left _ _)
    · exact (stopsAt_of_items rest hrest).mono (List.subset_append_right _ _)

end

/-- The expansion gives up at the last one of references that stand inside of one another: there are more of them than
levels, or the last one stands in the phrase that it names. -/
theorem exists_nested_of_itemsAtDepth {levels : Nat}
    (haround : ∀ position name, around.phrase = some (position, name) →
      phraseReferences pattern ⊆ context.referencesFrom name)
    (h : itemsAtDepth context levels around pattern sequences count = .error r.failure) :
    ∃ chain, context.Nested pattern chain ∧ chain.getLast? = some r ∧
      (chain.length = levels + 1 ∨ r ∈ context.referencesFrom r.name) := by
  induction levels generalizing around pattern sequences count with
  | zero =>
    cases stopsAt_of_items pattern h with
    | tooDeep hr henter => exact ⟨[r], .singleton hr, rfl, Or.inl rfl⟩
    | itself hr hphrase => exact ⟨[r], .singleton hr, rfl, Or.inr (haround _ _ hphrase hr)⟩
    | inside houter hnamed hrun hitems _ h => cases hrun
  | succ levels ih =>
    cases stopsAt_of_items pattern h with
    | tooDeep hr henter => cases henter
    | itself hr hphrase => exact ⟨[r], .singleton hr, rfl, Or.inr (haround _ _ hphrase hr)⟩
    | @inside outer named _ items position inner _ _ houter hnamed hrun hitems hinner h =>
      cases hrun
      have hown : ∀ position name, inner.phrase = some (position, name) →
          phraseReferences items ⊆ context.referencesFrom name := by
        intro position' name hname r' hr'
        obtain ⟨-, rfl⟩ := Prod.mk.inj (Option.some_inj.mp (hinner.symm.trans hname))
        exact RuleContext.mem_referencesFrom.mpr ⟨named, hnamed, items, hitems, hr'⟩
      obtain ⟨chain, hchain, hlast, hreason⟩ := ih hown h
      refine ⟨outer :: chain, hchain.cons houter hnamed hitems, ?_, hreason.imp_left (congrArg (· + 1))⟩
      rw [List.getLast?_cons, hlast, Option.getD_some]

end Failure

end Expansion

namespace Compile

section Faults

variable {patternCase : Bool} {position : Nat} {fault : CompileFault}

theorem isRecursion_of_backwardCondition {d : ConditionDef}
    (h : backwardCondition d patternCase position = .error fault) : fault.isRecursion = false := by
  rcases bind_eq_error.mp h with hcondition | ⟨c, -, h⟩
  · obtain ⟨_, -, rfl⟩ := mapError_eq_error.mp hcondition
    rfl
  · split at h
    · cases h
    · split at h
      · cases h
        rfl
      · cases h

theorem isRecursion_of_checkBounds {t : TokenDef} (h : checkBounds t = .error fault) : fault.isRecursion = false := by
  unfold checkBounds at h
  split at h
  · cases h
  · split at h
    · cases h
      rfl
    · split at h
      · cases h
        rfl
      · cases h

theorem isRecursion_of_element {g : TokenGroup} (h : element g position patternCase = .error fault) :
    fault.isRecursion = false := by
  rcases bind_eq_error.mp h with hbounds | ⟨_, -, h⟩
  · exact isRecursion_of_checkBounds hbounds
  rcases bind_eq_error.mp h with hcondition | ⟨_, -, h⟩
  · exact isRecursion_of_backwardCondition hcondition
  rcases bind_eq_error.mp h with hexceptions | ⟨_, -, h⟩
  · obtain ⟨d, -, hd⟩ := exists_of_mapM_eq_error hexceptions
    rcases bind_eq_error.mp hd with hcondition | ⟨_, -, hpure⟩
    · exact isRecursion_of_backwardCondition hcondition
    · cases hpure
  rcases bind_eq_error.mp h with hothers | ⟨_, -, hpure⟩
  · obtain ⟨t, -, ht⟩ := exists_of_mapM_eq_error hothers
    unfold otherCondition at ht
    split at ht
    · exact isRecursion_of_backwardCondition ht
    · cases ht
      rfl
  · cases hpure

theorem isRecursion_of_pattern {ruleId : String} {count : ExpansionCount} {sequence : List PlannedToken}
    {e : CompileError} (h : pattern ruleId count patternCase sequence = .error e) : e.fault.isRecursion = false := by
  rcases bind_eq_error.mp h with helements | ⟨_, -, hpure⟩
  · obtain ⟨t, -, ht⟩ := exists_of_mapM_eq_error helements
    rcases bind_eq_error.mp ht with hlocated | ⟨_, -, hpure⟩
    · obtain ⟨fault, hfault, rfl⟩ := mapError_eq_error.mp hlocated
      exact isRecursion_of_element hfault
    · cases hpure
  · cases hpure

/-- Recursion is a fault of the expansion alone. -/
theorem expand_eq_failure {context : RuleContext} {ruleId name : String} {d : PatternDef} {e : CompileError}
    (h : patterns context ruleId d = .error e) (hfault : e.fault = .recursivePhrase name) :
    context.expand d.items = .error (PhraseReference.failure ⟨name, e.location⟩) := by
  rcases bind_eq_error.mp h with hexpand | ⟨⟨sequences, count⟩, -, h⟩
  · obtain ⟨⟨location, fault⟩, hfound, rfl⟩ := mapError_eq_error.mp hexpand
    obtain rfl : fault = .recursivePhrase name := hfault
    exact hfound
  · dsimp only at h
    split at h
    · cases h
    · obtain ⟨sequence, -, hpattern⟩ := exists_of_mapM_eq_error h
      have hother := isRecursion_of_pattern hpattern
      rw [hfault] at hother
      cases hother

end Faults

open Expansion RuleContext in
/-- Recursion in the phrases of a pattern is found, and nothing else is taken for it. The expansion is the one solution of
the recursion that counts its depth. -/
structure CatchesRecursion (context : RuleContext) (ruleId : String) (d : PatternDef) : Prop where
  terminates : ∃ run, CountsDepth context run ∧ (∀ run', CountsDepth context run' → run' = run) ∧
    context.expand d.items = (run 0 {} d.items [[]]).run {}
  cycle : ∀ r ∈ phraseReferences d.items, context.LeadsToCycle r.name → ∃ e, patterns context ruleId d = .error e
  reported : ∀ e name, patterns context ruleId d = .error e → e.fault = .recursivePhrase name →
    ∃ chain, context.Nested d.items chain ∧ chain.getLast? = some ⟨name, e.location⟩ ∧
      (maxPhraseDepth < chain.length ∨ ⟨name, e.location⟩ ∈ context.referencesFrom name)
  shallow : (∀ chain, context.Nested d.items chain → chain.length ≤ maxPhraseDepth) →
    ∀ e, patterns context ruleId d = .error e → ∀ name, e.fault ≠ .recursivePhrase name

theorem exists_error_of_nested {context : RuleContext} {ruleId : String} {d : PatternDef}
    {chain : List PhraseReference} (hchain : context.Nested d.items chain)
    (hlength : Expansion.maxPhraseDepth < chain.length) : ∃ e, patterns context ruleId d = .error e := by
  cases h : patterns context ruleId d with
  | error e => exact ⟨e, rfl⟩
  | ok ps =>
    obtain ⟨outcome, hexpand, -⟩ := bind_eq_ok.mp h
    have hle := Expansion.length_le_of_itemsAtDepth (mapError_eq_ok.mp hexpand) hchain
    omega

theorem exists_nested_of_patterns {context : RuleContext} {ruleId name : String} {d : PatternDef} {e : CompileError}
    (h : patterns context ruleId d = .error e) (hfault : e.fault = .recursivePhrase name) :
    ∃ chain, context.Nested d.items chain ∧ chain.getLast? = some ⟨name, e.location⟩ ∧
      (Expansion.maxPhraseDepth < chain.length ∨ ⟨name, e.location⟩ ∈ context.referencesFrom name) := by
  -- No phrase is around the pattern itself.
  have hroot : ∀ position name, ({} : Surroundings).phrase = some (position, name) →
      phraseReferences d.items ⊆ context.referencesFrom name := fun _ _ hsome => nomatch hsome
  obtain ⟨chain, hchain, hlast, hreason⟩ := Expansion.exists_nested_of_itemsAtDepth hroot (expand_eq_failure h hfault)
  exact ⟨chain, hchain, hlast, hreason.imp_left fun hlength => by omega⟩

/-- Whatever phrases there are, a pattern is expanded to an end, a cycle is rejected, and recursion is reported for a phrase
that refers to itself or for references that stand too deep, but for no pattern in which they stand less deep. -/
theorem catchesRecursion (context : RuleContext) (ruleId : String) (d : PatternDef) :
    CatchesRecursion context ruleId d where
  terminates := ⟨_, Expansion.countsDepth_iff.mpr rfl, fun _ => Expansion.countsDepth_iff.mp, rfl⟩
  cycle r hr hcycle := by
    obtain ⟨chain, hchain, hlength⟩ := hcycle.exists_nested hr Expansion.maxPhraseDepth
    exact exists_error_of_nested hchain (by omega)
  reported _ _ := exists_nested_of_patterns
  shallow hshallow e h name hfault := by
    obtain ⟨chain, hchain, hlast, hdeep | hitself⟩ := exists_nested_of_patterns h hfault
    · exact absurd (hshallow chain hchain) (Nat.not_le_of_lt hdeep)
    · have hpumped := hshallow _ (hchain.append_replicate hlast hitself (Expansion.maxPhraseDepth + 1))
      rw [List.length_append, List.length_replicate] at hpumped
      omega

/-- A pattern that refers to a phrase. -/
def throughPhrase (name : String) : PatternDef := ⟨true, [.phrase name ⟨1, 1⟩]⟩

def faultThrough? (context : RuleContext) (name : String) : Option CompileFault :=
  match patterns context "R" (throughPhrase name) with
  | .error e => some e.fault
  | .ok _ => none

/-- Phrases that each refer to the one before. -/
def phraseLadder (steps : Nat) : RuleContext where
  phrases := ⟨"P0", [[]], ⟨1, 1⟩⟩ :: (List.range steps).map fun k => ⟨s!"P{k + 1}", [[.phrase s!"P{k}" ⟨1, 1⟩]], ⟨1, 1⟩⟩
  features := ⟨[]⟩

/-- Sixteen references may stand inside of one another, but not one more. -/
example : (faultThrough? (phraseLadder 15) "P15", faultThrough? (phraseLadder 16) "P16") =
    (none, some (.recursivePhrase "P0")) := by decide +kernel

/-- Two phrases that refer to each other. -/
def mutualPhrases : RuleContext where
  phrases := [⟨"P", [[.phrase "Q" ⟨1, 1⟩]], ⟨1, 1⟩⟩, ⟨"Q", [[], [.phrase "P" ⟨2, 1⟩]], ⟨2, 1⟩⟩]
  features := ⟨[]⟩

/-- The pattern is rejected for its cycle, at a reference that stands too deep. -/
theorem catchesRecursion_mutualPhrases :
    ∃ e chain, patterns mutualPhrases "R" (throughPhrase "P") = .error e ∧ e.fault = .recursivePhrase "P" ∧
      mutualPhrases.Nested (throughPhrase "P").items chain ∧ Expansion.maxPhraseDepth < chain.length := by
  have hcaught := catchesRecursion mutualPhrases "R" (throughPhrase "P")
  have hthere : mutualPhrases.RefersTo "P" "Q" := ⟨⟨"Q", ⟨1, 1⟩⟩, by decide +kernel, rfl⟩
  have hback : mutualPhrases.RefersTo "Q" "P" := ⟨⟨"P", ⟨2, 1⟩⟩, by decide +kernel, rfl⟩
  have hcycle : mutualPhrases.LeadsToCycle "P" := ⟨"P", .refl, .tail (.single hthere) hback⟩
  obtain ⟨e, he⟩ := hcaught.cycle ⟨"P", ⟨1, 1⟩⟩ (by decide +kernel) hcycle
  have hfault : faultThrough? mutualPhrases "P" = some (.recursivePhrase "P") := by decide +kernel
  rw [faultThrough?, he] at hfault
  have hown : e.fault = .recursivePhrase "P" := Option.some_inj.mp hfault
  obtain ⟨chain, hchain, -, hdeep | hitself⟩ := hcaught.reported e "P" he hown
  · exact ⟨e, chain, he, hown, hchain, hdeep⟩
  · have hnone : ∀ r ∈ mutualPhrases.referencesFrom "P", r.name ≠ "P" := by decide +kernel
    exact absurd rfl (hnone _ hitself)

end Compile

end GrammarCheck
