import GrammarCheck.Proofs.Prefilter.Index
import GrammarCheck.Proofs.Rule.Grouping
import GrammarCheck.Proofs.Search.Matching
import GrammarCheck.Proofs.Search.Scan
import GrammarCheck.Proofs.Text.Lowercase

/-! A rule that can be left out for a sentence has no match in it. An element that may not be left out takes a token,
and this token has the word that the element's first condition needs. -/

namespace GrammarCheck

/-- A stored literal is accepted only by texts with the same lowercase form. -/
theorem Matcher.lowercase_eq_of_accepts {stored text : String} {caseSensitive : Bool}
    (h : (literal stored).accepts text caseSensitive = true) : Text.lowercase text = Text.lowercase stored := by
  unfold accepts at h
  dsimp only at h
  split at h
  · rw [beq_iff_eq.mp h]
  · have hlower : Text.lowercase text = stored := Text.eqLowercase_iff.mp h
    rw [← hlower, Text.lowercase_lowercase]

namespace WordIndex

theorem hasWord_ofTokens {tokens : List Token} {t : Token} (ht : t ∈ tokens) :
    (ofTokens tokens).hasWord (Text.lowercase t.text) = true :=
  List.contains_iff_mem.mpr (List.mem_map_of_mem ht)

theorem hasBase_ofTokens {tokens : List Token} {t : Token} (ht : t ∈ tokens) {r : Reading} (hr : r ∈ t.readings)
    {base : String} (hbase : r.base = some base) : (ofTokens tokens).hasBase (Text.lowercase base) = true := by
  refine List.contains_iff_mem.mpr (List.mem_flatMap.mpr ⟨t, ht, List.mem_filterMap.mpr ⟨r, hr, ?_⟩⟩)
  rw [hbase, Option.map_some]

/-- Is the word there, as a base form or as a text? -/
def has (index : WordIndex) : String × Bool → Bool
  | (word, true) => index.hasBase word
  | (word, false) => index.hasWord word

end WordIndex

/-- A condition that holds of a token finds the word that it needs there. -/
theorem Condition.has_requiredWord {c : Condition} {tokens : List Token} {t : Token} (ht : t ∈ tokens)
    {b : Option Bindings} (h : c.holds t b = true) {required : String × Bool}
    (hrequired : c.requiredWord? = some required) : (WordIndex.ofTokens tokens).has required = true := by
  unfold requiredWord? at hrequired
  split at hrequired
  · cases hrequired
  · rename_i hplain
    split at hrequired
    case h_2 => cases hrequired
    case h_1 stored htext =>
      obtain rfl := Option.some_inj.mp hrequired
      rw [Bool.or_eq_true, not_or, Bool.not_eq_true] at hplain
      have hevaluate : c.evaluate t b = true := by
        rw [holds, hplain.1, Bool.bne_false] at h
        exact h
      simp only [evaluate, Bool.and_eq_true] at hevaluate
      obtain ⟨⟨-, hsurface⟩, hreadings⟩ := hevaluate
      -- The text is that of the token or that of a base form, of any of its readings.
      cases hinflected : c.inflected with
      | false =>
        rw [surfaceHolds, hinflected, htext, Bool.false_or, Option.all_some] at hsurface
        rw [← Matcher.lowercase_eq_of_accepts hsurface]
        exact WordIndex.hasWord_ofTokens ht
      | true =>
        have hbase : ∃ r ∈ t.readings, c.baseHolds r = true := by
          unfold readingsHold at hreadings
          split at hreadings
          · rw [Bool.and_eq_true] at hreadings
            exact List.any_eq_true.mp hreadings.1
          · obtain ⟨r, hr, hboth⟩ := List.any_eq_true.mp hreadings
            exact ⟨r, hr, (Bool.and_eq_true _ _ ▸ hboth).1⟩
        obtain ⟨r, hr, haccepts⟩ := hbase
        rw [baseHolds, hinflected, htext, Bool.not_true, Bool.false_or, Option.all_some] at haccepts
        cases hown : r.base with
        | none =>
          rw [hown] at haccepts
          cases haccepts
        | some base =>
          rw [hown, Option.any_some] at haccepts
          rw [← Matcher.lowercase_eq_of_accepts haccepts]
          exact WordIndex.hasBase_ofTokens ht hr hown

theorem Element.has_requiredWord {e : Element} {s : Sentence} {i : Nat} {b : Option Bindings}
    (h : e.matchesAt s i b = true) {required : String × Bool} (hrequired : e.requiredWord? = some required) :
    (WordIndex.ofTokens s.tokens).has required = true := by
  unfold requiredWord? at hrequired
  split at hrequired
  · cases hrequired
  · unfold matchesAt at h
    split at h
    case h_1 => cases h
    case h_2 t ht =>
      simp only [Bool.and_eq_true] at h
      exact Condition.has_requiredWord (List.mem_of_getElem? ht) h.1.1 hrequired

/-- An element that may not be left out matches some token. -/
theorem Assigned.exists_matchesAt {s : Sentence} {cursor : Nat} {gap : Bound} {guard : Option Element}
    {before taken : List Taken} (h : Assigned s cursor gap guard before taken) :
    ∀ e ∈ taken.map (·.1), e.min ≠ 0 → ∃ i b, e.matchesAt s i b = true := by
  induction h with
  | done => exact List.forall_mem_nil _
  | @consumed _ _ _ _ _ span _ hspan _ ih =>
    refine List.forall_mem_cons.mpr ⟨fun _ => ⟨span.start, _, hspan.met span.start ?_⟩, ih⟩
    have hlow := hspan.low
    unfold Span.size at hlow
    exact Span.mem_indices.mpr ⟨Nat.le_refl _, by omega⟩
  | absent hmin _ ih => exact List.forall_mem_cons.mpr ⟨fun hne => absurd hmin hne, ih⟩

namespace Rule

variable {r : Rule} {s : Sentence}

theorem canBeIgnored_eq_false {index : WordIndex}
    (h : ∀ e ∈ r.elements, ∀ required, e.requiredWord? = some required → index.has required = true) :
    r.canBeIgnored index = false := by
  have hall (bases : Bool) : ∀ word ∈ r.requiredWords bases, index.has (word, bases) = true := by
    intro word hword
    obtain ⟨⟨_, kind⟩, hmem, rfl⟩ := List.mem_map.mp hword
    obtain ⟨hmem, hkind⟩ := List.mem_filter.mp hmem
    obtain ⟨e, he, hrequired⟩ := List.mem_filterMap.mp hmem
    rw [← beq_iff_eq.mp hkind]
    exact h e he _ hrequired
  have hwords : index.hasWords (r.requiredWords false) = true := List.all_eq_true.mpr (hall false)
  have hbases : index.hasBases (r.requiredWords true) = true := List.all_eq_true.mpr (hall true)
  rw [canBeIgnored, hwords, hbases]
  rfl

theorem completionsAt_eq_nil (h : r.canBeIgnored (.ofTokens s.tokens) = true) (i : Nat) : r.completionsAt s i = [] := by
  refine List.eq_nil_iff_forall_not_mem.mpr fun p hp => ?_
  obtain ⟨taken, -, helements, hspans, -⟩ := Search.assignment_of_mem_completions r.features s hp
  have hneeded : r.canBeIgnored (.ofTokens s.tokens) = false := by
    refine canBeIgnored_eq_false fun e he required hrequired => ?_
    have hmin : e.min ≠ 0 := by
      intro hzero
      rw [Element.requiredWord?, if_pos hzero] at hrequired
      cases hrequired
    obtain ⟨i, b, hmatch⟩ := hspans.exists_matchesAt e (helements ▸ he) hmin
    exact Element.has_requiredWord hmatch hrequired
  rw [hneeded] at h
  cases h

/-- A rule that can be left out finds nothing, if it does not run into its limit before. -/
theorem findMatches_cases (h : r.canBeIgnored (.ofTokens s.tokens) = true) (limit : Option Nat) :
    r.findMatches s limit = .ok [] ∨ ∃ n, limit = some n ∧ r.findMatches s limit = .error (.stepLimit n) := by
  have hscan : r.scan s = [] := scanFrom_eq_nil (completionsAt_eq_nil h) 0 none
  have hfound := r.findMatches_eq_or s limit
  rw [hscan, List.map_nil] at hfound
  exact hfound

/-- A rule is left out for a sentence only if it has no match there. -/
theorem findMatches_of_canBeIgnored (hs : s.Reached) (h : r.canBeIgnored s.index = true) :
    r.findMatches s none = .ok [] := by
  rw [hs.coherent] at h
  rcases findMatches_cases h none with hok | ⟨n, hnone, -⟩
  · exact hok
  · exact nomatch hnone

def missingWord : String := "rule r \x7b pattern \x7b [\"Cat\"] \x7d message \"m\"; \x7d"

theorem findMatches_missingWord : ∃ r s, IsCompiled r ∧ Sentence.Reached s ∧ r.canBeIgnored s.index = true ∧
    r.findMatches s none = .ok [] := by
  have hrun : ((RuleSet.load missingWord).toOption.bind fun set => set.grammar.head?.map fun r =>
      r.canBeIgnored (Sentence.ofTokens [.new "Dog" []]).index) = some true := by decide +kernel
  obtain ⟨set, hload, hrun⟩ := Option.bind_eq_some_iff.mp hrun
  obtain ⟨r, hhead, hignored⟩ := Option.map_eq_some_iff.mp hrun
  have hr : r.IsCompiled :=
    (RuleSet.isCompiled_of_load (Success.toOption_eq_some.mp hload)).1 r (List.mem_of_head? hhead)
  have hs : (Sentence.ofTokens [.new "Dog" []]).Reached := .new _
  exact ⟨r, _, hr, hs, hignored, findMatches_of_canBeIgnored hs hignored⟩

end Rule

end GrammarCheck
