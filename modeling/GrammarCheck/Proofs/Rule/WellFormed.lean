import GrammarCheck.Match
import GrammarCheck.Proofs.Rule.Checks
import GrammarCheck.Proofs.Rule.Grouping
import GrammarCheck.Proofs.Rule.Positions

/-! What the search, the texts and the actions take for granted of a compiled rule. The positions of its elements are
counted without gaps, references point to positions that there are, the marker holds some of the elements, and the
groups of agreement stand together. -/

namespace GrammarCheck

open Success

/-- A group has its mark on the last one of its elements alone. -/
def LastMarked (elements : List Element) : Prop :=
  ∀ before e after, elements = before ++ e :: after → ∀ slot, e.agreement = some slot →
    (slot.last = true ↔ ∀ e' ∈ after, ¬e'.InGroup slot.group)

theorem Search.Grouped.lastMarked {elements : List Element} (h : Search.Grouped elements) : LastMarked elements := by
  intro before
  induction before generalizing elements with
  | cons first before ih =>
    rintro e after rfl
    exact ih h.2 e after rfl
  | nil =>
    rintro e after rfl slot hslot
    have hown := h.1 slot hslot
    cases hlast : slot.last with
    | true =>
      rw [hlast, if_pos rfl] at hown
      refine ⟨fun _ e' he' hin => ?_, fun _ => rfl⟩
      obtain ⟨slot', hslot', hgroup⟩ := Option.map_eq_some_iff.mp hin
      exact hown e' he' slot' hslot' hgroup
    | false =>
      rw [hlast, if_neg Bool.false_ne_true] at hown
      obtain ⟨e', slot', hhead, hslot', hgroup, -⟩ := hown
      have hin : e'.InGroup slot.group := by
        rw [Element.InGroup, hslot', Option.map_some, hgroup]
      refine ⟨fun hends => ?_, fun hnone => absurd hin (hnone e' (List.mem_of_mem_head? hhead))⟩
      cases hends

namespace Compile

/-- What holds of a compiled pattern of a definition. -/
structure CompiledPattern.IsWellFormed (context : RuleContext) (d : PatternDef) (p : CompiledPattern) : Prop where
  length_counts : p.elementCounts.length = positionCounts d.items
  counts_pos : ∀ n ∈ p.elementCounts, 1 ≤ n
  sum_counts : p.elementCounts.sum = p.elements.length
  positions : p.elements.map (·.position) = positionsFrom 0 p.elementCounts
  pairwise_positions : p.elements.Pairwise fun e e' => e.position ≤ e'.position
  /-- Each element can take a token, and at least as many tokens as it needs. -/
  bounds : ∀ e ∈ p.elements, e.max.admits 1 = true ∧ e.max.admits e.min = true
  /-- References are counted from one, so these are to positions before the element. -/
  references : ∀ e ∈ p.elements, ∀ n ∈ e.references, 1 ≤ n ∧ n ≤ e.position
  marker : p.marker.start < p.marker.stop ∧ p.marker.stop ≤ p.elements.length
  /-- The elements are those of tokens that were chosen, and the marker holds the ones of its block. -/
  marked : ∃ number choice tokens, Chosen context .root d.items choice tokens ∧
    List.Forall₂ (IsElementOf context d.caseSensitive number) tokens p.elements ∧
    ∀ k (hk : k < tokens.length), p.marker.contains k = true ↔ haveMarker d.items = false ∨ tokens[k].inMarker = true
  contiguous : ∀ g, Contiguous (Element.InGroup g) p.elements
  lastMarked : LastMarked p.elements

namespace CompiledPattern.IsWellFormed

variable {context : RuleContext} {d : PatternDef} {p : CompiledPattern}

theorem mem_positions_iff (h : p.IsWellFormed context d) {n : Nat} :
    n ∈ p.elements.map (·.position) ↔ n < p.elementCounts.length := by
  rw [h.positions, mem_positionsFrom_iff h.counts_pos, Nat.zero_add]
  exact and_iff_right (Nat.zero_le n)

/-- The counts are the numbers of elements at the positions. -/
theorem countP_position (h : p.IsWellFormed context d) {n count : Nat} (hcount : p.elementCounts[n]? = some count) :
    p.elements.countP (·.position == n) = count := by
  have hlt : n < p.elementCounts.length := (List.getElem?_eq_some_iff.mp hcount).1
  have hown : p.elements.countP (·.position == n) = (positionsFrom 0 p.elementCounts).count n := by
    rw [← h.positions, List.count, List.countP_map]
    rfl
  have hrange : (List.range' 0 p.elementCounts.length)[n]? = some n := by
    rw [List.getElem?_range' hlt, Nat.one_mul, Nat.zero_add]
  rw [← map_count_positionsFrom 0 p.elementCounts, List.getElem?_map, hrange, Option.map_some, Option.some_inj] at hcount
  rw [hown, hcount]

end CompiledPattern.IsWellFormed

theorem filled_of_ofFile {source : String} {file : RuleFile} {context : RuleContext}
    (hread : RuleFile.read source = .ok file) (hcontext : RuleContext.ofFile file = .ok context) : context.Filled := by
  obtain ⟨features, -, hcontext⟩ := bind_eq_ok.mp hcontext
  obtain rfl := pure_eq_ok.mp hcontext
  intro name phrase hphrase
  have hmem : phrase ∈ file.phrases := List.mem_reverse.mp (List.mem_of_find?_eq_some hphrase)
  exact (RuleFile.filled hread).2 phrase hmem

/-- A definition in which no block is empty is not compiled to nothing. -/
theorem patterns_ne_nil {context : RuleContext} (hcontext : context.Filled) {d : PatternDef}
    (hd : FilledItems d.items) {ruleId : String} {ps : List CompiledPattern}
    (h : patterns context ruleId d = .ok ps) : ps ≠ [] := by
  obtain ⟨ways, tally, count, hderives, -, hpositions, hways⟩ := exists_ways_of_patterns h
  have hpos : count.positions ≠ 0 := by
    rw [hpositions]
    exact Nat.pos_iff_ne_zero.mp hd.positionCounts_pos
  rw [if_neg hpos] at hways
  rintro rfl
  exact hderives.ways_ne_nil hcontext nofun (List.forall₂_nil_right_iff.mp hways)

theorem positions_eq {context : RuleContext} {caseSensitive : Bool} {number : UnifyBlock → Nat}
    {tokens : List ChosenToken} {elements : List Element}
    (h : List.Forall₂ (IsElementOf context caseSensitive number) tokens elements) :
    elements.map (·.position) = tokens.map (·.position) := by
  induction h with
  | nil => rfl
  | cons hfirst _ ih => rw [List.map_cons, List.map_cons, hfirst.position, ih]

/-- The counts of a sibling are the numbers of tokens at its positions. -/
theorem IsSiblingOf.counts_eq {context : RuleContext} {d : PatternDef} {number : UnifyBlock → Nat}
    {tokens : List ChosenToken} {p : CompiledPattern} (h : IsSiblingOf context d number tokens p) {counts : List Nat}
    (hlength : counts.length = positionCounts d.items)
    (htokens : tokens.map (·.position) = positionsFrom 0 counts) : p.elementCounts = counts := by
  have hcount (n : Nat) : tokens.countP (·.position == n) = (positionsFrom 0 counts).count n := by
    rw [← htokens, List.count, List.countP_map]
    rfl
  rw [h.elementCounts, ← hlength, List.range_eq_range']
  simp only [hcount]
  exact map_count_positionsFrom 0 counts

theorem IsElementOf.isChecked {context : RuleContext} {caseSensitive : Bool} {number : UnifyBlock → Nat}
    {t : ChosenToken} {e : Element} (h : IsElementOf context caseSensitive number t e) : e.IsChecked := by
  obtain ⟨hpos, hmin, hreferences⟩ := isChecked_of_element h.own
  exact ⟨hpos, hmin, hreferences⟩

theorem isChecked_of_patterns {context : RuleContext} {ruleId : String} {d : PatternDef} {ps : List CompiledPattern}
    (h : patterns context ruleId d = .ok ps) {p : CompiledPattern} (hp : p ∈ ps) : ∀ e ∈ p.elements, e.IsChecked := by
  obtain ⟨ways, tally, count, hderives, hgroups, hpositions, way, hway, hpattern⟩ := exists_way_of_patterns h hp
  have hsibling := isSiblingOf_pattern hderives hgroups hpositions hway hpattern
  exact Contiguous.forall_of_forall₂ (P := fun _ => True) hsibling.elements (fun t e he _ => he.isChecked)
    fun _ _ => trivial

/-- All siblings have the positions of the definition. -/
theorem length_elementCounts_of_patterns {context : RuleContext} {ruleId : String} {d : PatternDef}
    {ps : List CompiledPattern} (h : patterns context ruleId d = .ok ps) {p : CompiledPattern} (hp : p ∈ ps) :
    p.elementCounts.length = positionCounts d.items := by
  obtain ⟨ways, tally, count, hderives, hgroups, hpositions, way, hway, hpattern⟩ := exists_way_of_patterns h hp
  rw [(isSiblingOf_pattern hderives hgroups hpositions hway hpattern).elementCounts, List.length_map, List.length_range]

theorem markerSpan_stop_le (sequence : List PlannedToken) : (markerSpan sequence).stop ≤ sequence.length := by
  unfold markerSpan
  split
  · exact Nat.sub_le _ _
  · exact Nat.le_refl _

theorem isWellFormed_of_patterns {context : RuleContext} (hcontext : context.Filled) {d : PatternDef}
    (hd : FilledItems d.items) {ruleId : String} {ps : List CompiledPattern}
    (h : patterns context ruleId d = .ok ps) {p : CompiledPattern} (hp : p ∈ ps) : p.IsWellFormed context d := by
  obtain ⟨ways, tally, count, hderives, hgroups, hpositions, way, hway, hpattern⟩ := exists_way_of_patterns h hp
  have hsibling := isSiblingOf_pattern hderives hgroups hpositions hway hpattern
  have helements := hsibling.elements
  have hlength : way.tokens.length = p.elements.length := helements.length_eq
  -- The positions of the elements are those of the tokens of the way, and they tell the counts.
  obtain ⟨counts, hcounts, hcountsPos, htokens⟩ := hderives.exists_counts hcontext hd.2 rfl way hway
  have hcountsEq : p.elementCounts = counts := hsibling.counts_eq hcounts htokens
  have hpositionsEq : p.elements.map (·.position) = positionsFrom 0 p.elementCounts := by
    rw [positions_eq helements, hcountsEq]
    exact htokens
  have hchecked : ∀ e ∈ p.elements, e.IsChecked := isChecked_of_patterns h hp
  -- Some token is marked if there is a marker; without one, all elements are reported.
  have hmarked := hderives.exists_inMarker_iff hcontext hd.2 rfl way hway
  have hunmarked : (∀ t ∈ way.tokens, t.inMarker = false) ↔ haveMarker d.items = false := by
    rw [← Bool.not_eq_true, ← show _ ↔ haveMarker d.items = true from hmarked]
    simp
  have hcontains (k : Nat) (hk : k < way.tokens.length) :
      p.marker.contains k = true ↔ haveMarker d.items = false ∨ way.tokens[k].inMarker = true := by
    rw [hsibling.marker k hk, hunmarked, or_comm]
  have hstart : p.marker.start < p.marker.stop := by
    have hsome : ∃ k, p.marker.contains k = true := by
      cases hmarker : haveMarker d.items with
      | true =>
        obtain ⟨t, ht, hin⟩ := hmarked.mpr hmarker
        obtain ⟨k, hk, rfl⟩ := List.getElem_of_mem ht
        exact ⟨k, (hcontains k hk).mpr (Or.inr hin)⟩
      | false =>
        have hne := hderives.tokens_ne_nil hcontext hd.2 hd.1 way hway
        exact ⟨0, (hcontains 0 (List.length_pos_iff.mpr hne)).mpr (Or.inl hmarker)⟩
    obtain ⟨k, hk⟩ := hsome
    rw [Span.contains_iff] at hk
    exact Nat.lt_of_le_of_lt hk.1 hk.2
  have hstop : p.marker.stop ≤ p.elements.length := by
    obtain ⟨_, -, hpattern⟩ := bind_eq_ok.mp hpattern
    rw [← hlength, ← pure_eq_ok.mp hpattern]
    refine (markerSpan_stop_le _).trans (Nat.le_of_eq ?_)
    exact List.length_map _
  exact {
    length_counts := hcountsEq ▸ hcounts
    counts_pos := hcountsEq ▸ hcountsPos
    sum_counts := by rw [← length_positionsFrom 0, ← hpositionsEq, List.length_map]
    positions := hpositionsEq
    pairwise_positions := List.pairwise_map.mp (hpositionsEq ▸ pairwise_positionsFrom 0 _)
    bounds := fun e he => ⟨(hchecked e he).max_pos, (hchecked e he).min_le_max⟩
    references := fun e he => (hchecked e he).references
    marker := ⟨hstart, hstop⟩
    marked := ⟨_, way.choice, way.tokens, (hderives.mem_iff way).mp hway, helements, hcontains⟩
    contiguous := contiguous_inGroup hderives hway helements
    lastMarked := (grouped_of_patterns h hp).lastMarked }

end Compile

namespace Rule

/-- The texts that are rendered for a match. -/
def templates (r : Rule) : List Template := r.message :: r.shortMessage.toList ++ r.suggestions

structure IsWellFormed (context : RuleContext) (d : PatternDef) (r : Rule) : Prop where
  pattern : r.compiledPattern.IsWellFormed context d
  templates : ∀ t ∈ r.templates, t.RefersWithin r.positionCount

theorem IsCompiled.isChecked {r : Rule} (h : r.IsCompiled) : ∀ e ∈ r.elements, e.IsChecked := by
  cases h with
  | rule hrules hr =>
    obtain ⟨ps, hps, hp⟩ := compiledPattern_of_rules hrules hr
    exact Compile.isChecked_of_patterns hps hp
  | disambiguation hrules hr =>
    obtain ⟨ps, hps, hp⟩ := compiledPattern_of_disambiguationRules hrules hr
    exact Compile.isChecked_of_patterns hps hp

/-- The texts are checked against the positions of the first sibling, and all siblings have as many. -/
theorem refersWithin_of_rules {context : RuleContext} {d : RuleDef} {rules : List Rule} {r : Rule}
    (h : Compile.rules context d = .ok rules) (hr : r ∈ rules) :
    ∀ t ∈ r.templates, t.RefersWithin (positionCounts d.pattern.items) := by
  obtain ⟨ps, hps, hrules⟩ := bind_eq_ok.mp h
  obtain ⟨texts, htexts, hrules⟩ := bind_eq_ok.mp hrules
  obtain rfl := pure_eq_ok.mp hrules
  obtain ⟨p, hp, rfl⟩ := List.mem_map.mp hr
  have hcount : (ps.head?.map (·.elementCounts.length)).getD 0 = positionCounts d.pattern.items := by
    obtain ⟨first, rest, rfl⟩ := List.exists_cons_of_ne_nil (List.ne_nil_of_mem hp)
    exact Compile.length_elementCounts_of_patterns hps List.mem_cons_self
  rw [hcount] at htexts
  obtain ⟨message, hmessage, htexts⟩ := bind_eq_ok.mp (mapError_eq_ok.mp htexts)
  obtain ⟨shortMessage, hshort, htexts⟩ := bind_eq_ok.mp htexts
  obtain ⟨suggestions, hsuggestions, htexts⟩ := bind_eq_ok.mp htexts
  obtain rfl := pure_eq_ok.mp htexts
  intro t ht
  rcases List.mem_cons.mp ht with rfl | ht
  · exact Compile.refersWithin_of_template hmessage
  rcases List.mem_append.mp ht with ht | ht
  · cases hsource : d.shortMessage with
    | none =>
      rw [hsource] at hshort
      obtain rfl := pure_eq_ok.mp hshort
      exact absurd ht List.not_mem_nil
    | some source =>
      rw [hsource] at hshort
      obtain ⟨t', ht', hshort⟩ := bind_eq_ok.mp hshort
      obtain rfl := pure_eq_ok.mp hshort
      rw [List.mem_singleton.mp ht]
      exact Compile.refersWithin_of_template ht'
  · obtain ⟨source, -, hsource⟩ := exists_of_mem_of_mapM_eq_ok hsuggestions ht
    exact Compile.refersWithin_of_template hsource

/-- A disambiguation rule has no texts. -/
theorem refersWithin_of_disambiguationRules {context : RuleContext} {d : DisambiguationDef}
    {rules : List DisambiguationRule} {r : DisambiguationRule} (h : Compile.disambiguationRules context d = .ok rules)
    (hr : r ∈ rules) (positions : Nat) : ∀ t ∈ r.rule.templates, t.RefersWithin positions := by
  obtain ⟨ps, -, hrules⟩ := bind_eq_ok.mp h
  obtain ⟨p, -, hone⟩ := exists_of_mem_of_mapM_eq_ok hrules hr
  obtain ⟨a, -, hone⟩ := bind_eq_ok.mp hone
  obtain rfl := pure_eq_ok.mp hone
  intro t ht reference hreference
  rw [List.mem_singleton.mp ht] at hreference
  exact absurd hreference List.not_mem_nil

/-- The references of the texts of a rule are to its positions. -/
theorem IsCompiled.refersWithin {r : Rule} (h : r.IsCompiled) : ∀ t ∈ r.templates, t.RefersWithin r.positionCount := by
  cases h with
  | @rule context d rules r hrules hr =>
    obtain ⟨ps, hps, hp⟩ := compiledPattern_of_rules hrules hr
    have hcount : r.positionCount = positionCounts d.pattern.items := Compile.length_elementCounts_of_patterns hps hp
    rw [hcount]
    exact refersWithin_of_rules hrules hr
  | disambiguation hrules hr => exact refersWithin_of_disambiguationRules hrules hr _

/-- The rule is compiled from a pattern of a file. -/
inductive ComesFrom (file : RuleFile) (context : RuleContext) : PatternDef → Rule → Prop
  | rule {d rules r} (hd : d ∈ file.rules) (hrules : Compile.rules context d = .ok rules) (hr : r ∈ rules) :
      ComesFrom file context d.pattern r
  | disambiguation {d rules} {r : DisambiguationRule} (hd : d ∈ file.disambiguations)
      (hrules : Compile.disambiguationRules context d = .ok rules) (hr : r ∈ rules) :
      ComesFrom file context d.pattern r.rule

variable {file : RuleFile} {context : RuleContext} {d : PatternDef} {r : Rule}

theorem ComesFrom.mem_patterns (h : ComesFrom file context d r) : d ∈ file.patterns := by
  cases h with
  | rule hd _ _ => exact List.mem_append_left _ (List.mem_map_of_mem hd)
  | disambiguation hd _ _ => exact List.mem_append_right _ (List.mem_map_of_mem hd)

theorem ComesFrom.compiledPattern (h : ComesFrom file context d r) :
    ∃ ruleId ps, Compile.patterns context ruleId d = .ok ps ∧ r.compiledPattern ∈ ps := by
  cases h with
  | @rule d rules r _ hrules hr => exact ⟨d.id, compiledPattern_of_rules hrules hr⟩
  | @disambiguation d rules r _ hrules hr => exact ⟨d.id, compiledPattern_of_disambiguationRules hrules hr⟩

theorem ComesFrom.isCompiled (h : ComesFrom file context d r) : r.IsCompiled := by
  cases h with
  | rule _ hrules hr => exact .rule hrules hr
  | disambiguation _ hrules hr => exact .disambiguation hrules hr

/-- What a function gives for the first match of the first rule of a source. -/
def ofFirstMatch? {α : Type} (f : Rule → Match → α) (source : String) (s : Sentence) : Option α :=
  (RuleFile.read source).toOption.bind fun file => (RuleContext.ofFile file).toOption.bind fun context =>
    file.rules.head?.bind fun d => (Compile.rules context d).toOption.bind fun rules => rules.head?.bind fun r =>
      (r.findMatches s none).toOption.bind fun ms => ms.head?.map (f r)

theorem exists_of_ofFirstMatch? {α : Type} {f : Rule → Match → α} {source : String} {s : Sentence} {a : α}
    (h : ofFirstMatch? f source s = some a) :
    ∃ file context d r ms m, RuleFile.read source = .ok file ∧ RuleContext.ofFile file = .ok context ∧
      ComesFrom file context d r ∧ r.findMatches s none = .ok ms ∧ m ∈ ms ∧ f r m = a := by
  obtain ⟨file, hread, h⟩ := Option.bind_eq_some_iff.mp h
  obtain ⟨context, hcontext, h⟩ := Option.bind_eq_some_iff.mp h
  obtain ⟨d, hd, h⟩ := Option.bind_eq_some_iff.mp h
  obtain ⟨rules, hrules, h⟩ := Option.bind_eq_some_iff.mp h
  obtain ⟨r, hr, h⟩ := Option.bind_eq_some_iff.mp h
  obtain ⟨ms, hms, h⟩ := Option.bind_eq_some_iff.mp h
  obtain ⟨m, hm, h⟩ := Option.map_eq_some_iff.mp h
  rw [toOption_eq_some] at hread hcontext hrules hms
  have hcomes : ComesFrom file context d.pattern r :=
    .rule (List.mem_of_head? hd) hrules (List.mem_of_head? hr)
  exact ⟨file, context, d.pattern, r, ms, m, hread, hcontext, hcomes, hms, List.mem_of_head? hm, h⟩

theorem ComesFrom.refersWithin (h : ComesFrom file context d r) :
    ∀ t ∈ r.templates, t.RefersWithin (positionCounts d.items) := by
  cases h with
  | rule _ hrules hr => exact refersWithin_of_rules hrules hr
  | disambiguation _ hrules hr => exact refersWithin_of_disambiguationRules hrules hr _

theorem ComesFrom.isWellFormed_compiledPattern {source : String} (hread : RuleFile.read source = .ok file)
    (hcontext : RuleContext.ofFile file = .ok context) (h : ComesFrom file context d r) :
    r.compiledPattern.IsWellFormed context d := by
  obtain ⟨ruleId, ps, hps, hp⟩ := h.compiledPattern
  have hphrases : context.Filled := Compile.filled_of_ofFile hread hcontext
  have hitems : FilledItems d.items := (RuleFile.filled hread).1 d h.mem_patterns
  exact Compile.isWellFormed_of_patterns hphrases hitems hps hp

/-- Every rule that a file is compiled to is well formed. -/
theorem isWellFormed_of_comesFrom {source : String} (hread : RuleFile.read source = .ok file)
    (hcontext : RuleContext.ofFile file = .ok context) (h : ComesFrom file context d r) : r.IsWellFormed context d := by
  have hpattern := h.isWellFormed_compiledPattern hread hcontext
  refine ⟨hpattern, ?_⟩
  rw [show r.positionCount = positionCounts d.items from hpattern.length_counts]
  exact h.refersWithin

/-- A pattern with an optional element, a phrase in a block of agreement in the marker, and references. -/
def agreeingPhrase : String :=
  "unification f \x7b a = pos=\"A\"; \x7d phrase p \x7b [pos=\"X\"] | [pos=\"Y\"] [pos=\"Z\"] \x7d " ++
    "rule r \x7b pattern \x7b [pos=\"A\", min=0, max=2] marker \x7b unify(f) \x7b [pos=\"B\"] @p \x7d \x7d " ++
    "[ref=1] \x7d message \"\\4 after \\2\"; \x7d"

theorem isWellFormed_agreeingPhrase :
    ∃ file context d r, RuleFile.read agreeingPhrase = .ok file ∧ RuleContext.ofFile file = .ok context ∧
      ComesFrom file context d r ∧ r.elementCounts = [1, 1, 2, 1] ∧ r.marker = ⟨1, 4⟩ ∧
      r.elements.map (·.agreement.map (·.last)) = [none, some false, some false, some true, none] ∧
      r.message.references.map (·.position) = [4, 2] ∧ r.IsWellFormed context d := by
  have hrun : ((RuleFile.read agreeingPhrase).toOption.bind fun file => (RuleContext.ofFile file).toOption.bind
      fun context => file.rules.head?.bind fun d => (Compile.rules context d).toOption.bind fun rules =>
        rules.getLast?.map fun r => (r.elementCounts, r.marker, r.elements.map (·.agreement.map (·.last)),
          r.message.references.map (·.position))) =
      some ([1, 1, 2, 1], ⟨1, 4⟩, [none, some false, some false, some true, none], [4, 2]) := by decide +kernel
  obtain ⟨file, hread, hrun⟩ := Option.bind_eq_some_iff.mp hrun
  obtain ⟨context, hcontext, hrun⟩ := Option.bind_eq_some_iff.mp hrun
  obtain ⟨d, hhead, hrun⟩ := Option.bind_eq_some_iff.mp hrun
  obtain ⟨rules, hrules, hrun⟩ := Option.bind_eq_some_iff.mp hrun
  obtain ⟨r, hlast, hrun⟩ := Option.map_eq_some_iff.mp hrun
  rw [toOption_eq_some] at hread hcontext hrules
  have hr : r ∈ rules := List.mem_of_getLast? hlast
  have hcomes : ComesFrom file context d.pattern r := .rule (List.mem_of_head? hhead) hrules hr
  simp only [Prod.mk.injEq] at hrun
  obtain ⟨hcounts, hmarker, hgroups, hreferences⟩ := hrun
  exact ⟨file, context, d.pattern, r, hread, hcontext, hcomes, hcounts, hmarker, hgroups, hreferences,
    isWellFormed_of_comesFrom hread hcontext hcomes⟩

end Rule

end GrammarCheck
