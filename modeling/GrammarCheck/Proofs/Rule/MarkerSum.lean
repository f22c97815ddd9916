import GrammarCheck.Proofs.Rule.WellFormed
import GrammarCheck.Proofs.Source.Counts

/-! The length of a marker as a sum. The counts of a rule are those of the tokens in its file, so each of them fits into
64 bits, but nothing keeps their sum there. The sum is taken element by element; it is the true one just in case every
addition stays below the size of a word. -/

namespace GrammarCheck

open Success

/-! ### The counts of elements -/

/-- All tokens in a part have a property. -/
def Part.AllTokens (P : TokenDef → Prop) : Part → Prop
  | .item _ content => ∀ t, content.HasToken t → P t
  | .items _ content => ∀ i ∈ content, ∀ t, i.HasToken t → P t
  | .alternatives _ _ content => ∀ items ∈ content, ∀ i ∈ items, ∀ t, i.HasToken t → P t

/-- The tokens that are chosen are tokens of the pattern or of a phrase. -/
theorem Derives.allTokens {context : RuleContext} {part : Part} {tally tally' : Tally} {ways : List Selection}
    (h : Derives context part tally ways tally') {P : TokenDef → Prop}
    (hphrases : ∀ name phrase, context.phrase? name = some phrase →
      ∀ items ∈ phrase.alternatives, ∀ i ∈ items, ∀ t, i.HasToken t → P t)
    (hpart : part.AllTokens P) : ∀ way ∈ ways, ∀ t ∈ way.tokens, P t.group.first := by
  induction h with
  | nil => simp
  | noAlternative => simp
  | tokens => simpa [Place.token] using hpart _ (.tokens List.mem_cons_self)
  | phrase hphrase _ ih => exact ih (hphrases _ _ hphrase)
  | marker _ _ _ ih => exact ih fun i hi t ht => hpart t (.marker hi ht)
  | unify _ _ ih => exact ih fun i hi t ht => hpart t (.unify hi ht)
  | cons _ _ ihitem ihrest =>
    obtain ⟨hitem, hrest⟩ := List.forall_mem_cons.mp hpart
    exact Selection.forall_tokens_combine (ihitem hitem) (ihrest hrest)
  | alternative _ _ ihitems ihrest =>
    obtain ⟨hitems, hrest⟩ := List.forall_mem_cons.mp hpart
    exact Selection.forall_tokens_taking_append _ (ihitems hitems) (ihrest hrest)

theorem RuleFile.hasToken_of_mem_patterns {file : RuleFile} {d : PatternDef} (hd : d ∈ file.patterns) {i : PatternItem}
    (hi : i ∈ d.items) {t : TokenDef} (ht : i.HasToken t) : file.HasToken t := by
  rcases List.mem_append.mp hd with hd | hd
  · obtain ⟨own, hown, rfl⟩ := List.mem_map.mp hd
    exact Or.inl ⟨own, hown, i, hi, ht⟩
  · obtain ⟨own, hown, rfl⟩ := List.mem_map.mp hd
    exact Or.inr (Or.inl ⟨own, hown, i, hi, ht⟩)

/-- The counts of an element in 64 bits. -/
structure Element.HasCounts (e : Element) : Prop where
  min : e.min ≤ Text.maxCount
  max : e.max.IsCount
  skip : e.skip.IsCount

namespace Compile

theorem hasCounts_of_element {g : TokenGroup} {position : Nat} {patternCase : Bool} {e : Element}
    (h : element g position patternCase = .ok e) (hg : g.first.HasCounts) : e.HasCounts := by
  obtain ⟨_, -, h⟩ := bind_eq_ok.mp h
  obtain ⟨_, -, h⟩ := bind_eq_ok.mp h
  obtain ⟨_, -, h⟩ := bind_eq_ok.mp h
  obtain ⟨_, -, h⟩ := bind_eq_ok.mp h
  obtain rfl := pure_eq_ok.mp h
  exact ⟨hg.min, hg.max, hg.skip⟩

theorem hasCounts_of_patterns {context : RuleContext} {ruleId : String} {d : PatternDef} {ps : List CompiledPattern}
    (h : patterns context ruleId d = .ok ps) (hitems : ∀ i ∈ d.items, ∀ t, i.HasToken t → t.HasCounts)
    (hphrases : ∀ name phrase, context.phrase? name = some phrase →
      ∀ items ∈ phrase.alternatives, ∀ i ∈ items, ∀ t, i.HasToken t → t.HasCounts)
    {p : CompiledPattern} (hp : p ∈ ps) : ∀ e ∈ p.elements, e.HasCounts := by
  obtain ⟨ways, tally, count, hderives, hgroups, hpositions, way, hway, hpattern⟩ := exists_way_of_patterns h hp
  have hsibling := isSiblingOf_pattern hderives hgroups hpositions hway hpattern
  intro e he
  obtain ⟨t, ht, hown⟩ := exists_of_mem_right hsibling.elements he
  have hcounts := hasCounts_of_element hown.own (hderives.allTokens hphrases hitems way hway t ht)
  exact ⟨hcounts.min, hcounts.max, hcounts.skip⟩

end Compile

namespace Rule

variable {file : RuleFile} {context : RuleContext} {d : PatternDef} {r : Rule}

/-- Every rule that a file is compiled to has counts of 64 bits. -/
theorem ComesFrom.hasCounts {source : String} (hread : RuleFile.read source = .ok file)
    (hcontext : RuleContext.ofFile file = .ok context) (h : ComesFrom file context d r) :
    ∀ e ∈ r.elements, e.HasCounts := by
  obtain ⟨ruleId, ps, hps, hp⟩ := h.compiledPattern
  have hcounts {t : TokenDef} (ht : file.HasToken t) : t.HasCounts := RuleFile.hasCounts_of_read hread ht
  refine Compile.hasCounts_of_patterns hps (fun i hi t ht => ?_) (fun name phrase hphrase items hitems i hi t ht => ?_) hp
  · exact hcounts (RuleFile.hasToken_of_mem_patterns h.mem_patterns hi ht)
  · obtain ⟨features, -, hcontext⟩ := bind_eq_ok.mp hcontext
    obtain rfl := pure_eq_ok.mp hcontext
    have hmem : phrase ∈ file.phrases := List.mem_reverse.mp (List.mem_of_find?_eq_some hphrase)
    exact hcounts (Or.inr (Or.inr ⟨phrase, hmem, items, hitems, i, hi, ht⟩))

end Rule

/-! ### The sum -/

/-- A count is added to the total of the counts before it. -/
structure Addition where
  total : Nat
  count : Nat
  deriving DecidableEq

namespace Addition

/-- The true sum is one of 64 bits. -/
def Fits (a : Addition) : Prop := a.total + a.count < UInt64.size

instance (a : Addition) : Decidable a.Fits := inferInstanceAs (Decidable (_ < _))

/-- What a word keeps of the sum. -/
def result (a : Addition) : Nat := (a.total + a.count) % UInt64.size

theorem result_of_fits {a : Addition} (h : a.Fits) : a.result = a.total + a.count := Nat.mod_eq_of_lt h

end Addition

/-- The additions by which a length is found, in order, and the length, if there is one. -/
structure LengthSum where
  additions : List Addition
  length : Option Nat
  deriving DecidableEq

namespace LengthSum

/-- The counts that are added. -/
def counts (s : LengthSum) : List Nat := s.additions.map (·.count)

/-- Adds the counts of elements to a total, in the order of the elements. The sum is given up at an element that has no fixed
count, and behind one that has a gap after it. -/
def ofElements (total : Nat) : List Element → LengthSum
  | [] => ⟨[], some total⟩
  | e :: rest =>
    match e.max with
    | .unbounded => ⟨[], none⟩
    | .upTo max =>
      if max ≠ e.min then ⟨[], none⟩
      else
        let first : Addition := ⟨total, max⟩
        if !rest.isEmpty && e.skip != .upTo 0 then ⟨[first], none⟩
        else
          let others := ofElements first.result rest
          ⟨first :: others.additions, others.length⟩

variable {elements : List Element} {total : Nat}

/-- The length of elements is found by adding their counts up in order. -/
theorem length_ofElements (htotal : total < UInt64.size) (elements : List Element) :
    (ofElements total elements).length = (Rule.fixedLength? elements).map fun n => (total + n) % UInt64.size := by
  fun_induction ofElements total elements with
  | case1 total => exact congrArg some (Nat.mod_eq_of_lt htotal).symm
  | case2 total e rest hmax => simp [Rule.fixedLength?_cons, hmax]
  | case3 total e rest max hmax hmin => simp [Rule.fixedLength?_cons, hmax, hmin]
  | case4 total e rest max hmax hmin first hgap =>
    rw [Rule.fixedLength?_cons, if_neg fun h => Rule.gap_open_iff.mp hgap h.2]
    rfl
  | case5 total e rest max hmax hmin first hgap others ih =>
    obtain rfl : max = e.min := not_not.mp hmin
    have hclosed : rest = [] ∨ e.skip = .upTo 0 := not_not.mp (mt Rule.gap_open_iff.mpr hgap)
    have hresult : first.result < UInt64.size := Nat.mod_lt _ (by decide)
    show others.length = _
    rw [Rule.fixedLength?_cons, if_pos ⟨hmax, hclosed⟩, Option.map_map, ih hresult]
    refine congrArg (Option.map · _) (funext fun n => ?_)
    rw [Function.comp_apply, Addition.result, Nat.mod_add_mod, Nat.add_mod_mod, Nat.add_assoc]

/-- No addition goes beyond a word just in case the true sum of the counts that are added does not. -/
theorem forall_fits_iff (htotal : total < UInt64.size) (elements : List Element) :
    (∀ a ∈ (ofElements total elements).additions, a.Fits) ↔
      total + (ofElements total elements).counts.sum < UInt64.size := by
  fun_induction ofElements total elements with
  | case1 total => simpa [counts] using htotal
  | case2 total e rest hmax => simpa [counts] using htotal
  | case3 total e rest max hmax hmin => simpa [counts] using htotal
  | case4 total e rest max hmax hmin first hgap => simp [counts, Addition.Fits, first]
  | case5 total e rest max hmax hmin first hgap others ih =>
    have hresult : first.result < UInt64.size := Nat.mod_lt _ (by decide)
    have hcons : (∀ a ∈ first :: others.additions, a.Fits) ↔
        first.Fits ∧ first.result + others.counts.sum < UInt64.size := by
      rw [List.forall_mem_cons, ih hresult]
    have hsum : total + (first.count :: others.counts).sum = first.total + first.count + others.counts.sum :=
      (Nat.add_assoc _ _ _).symm
    show (∀ a ∈ first :: others.additions, a.Fits) ↔ total + (first.count :: others.counts).sum < UInt64.size
    rw [hcons, hsum]
    constructor
    · rintro ⟨hfits, hrest⟩
      rwa [Addition.result_of_fits hfits] at hrest
    · intro hlt
      have hfits : first.Fits := Nat.lt_of_le_of_lt (Nat.le_add_right _ _) hlt
      exact ⟨hfits, by rwa [Addition.result_of_fits hfits]⟩

/-- Where there is a length, every element has taken part in it. -/
theorem counts_of_length (htotal : total < UInt64.size) {n : Nat} (h : (ofElements total elements).length = some n) :
    elements.map (·.max) = (ofElements total elements).counts.map .upTo ∧
      n = (total + (ofElements total elements).counts.sum) % UInt64.size := by
  fun_induction ofElements total elements with
  | case1 total => exact ⟨rfl, Option.some.inj h ▸ (Nat.mod_eq_of_lt htotal).symm⟩
  | case2 => cases h
  | case3 => cases h
  | case4 => cases h
  | case5 total e rest max hmax hmin first hgap others ih =>
    have hresult : first.result < UInt64.size := Nat.mod_lt _ (by decide)
    obtain ⟨hcounts, rfl⟩ := ih hresult h
    constructor
    · rw [List.map_cons, hmax, hcounts]
      rfl
    · show (first.result + others.counts.sum) % UInt64.size = (total + (max + others.counts.sum)) % UInt64.size
      rw [Addition.result, Nat.mod_add_mod, Nat.add_assoc]

theorem operands_lt (htotal : total < UInt64.size) (h : ∀ e ∈ elements, e.max.IsCount) :
    ∀ a ∈ (ofElements total elements).additions, a.total < UInt64.size ∧ a.count < UInt64.size := by
  have hcount {e : Element} {max : Nat} (he : e.max.IsCount) (hmax : e.max = .upTo max) : max < UInt64.size :=
    Nat.lt_of_le_of_lt (he max hmax) (by decide)
  fun_induction ofElements total elements with
  | case1 => exact List.forall_mem_nil _
  | case2 => exact List.forall_mem_nil _
  | case3 => exact List.forall_mem_nil _
  | case4 total e rest max hmax hmin first hgap =>
    exact List.forall_mem_singleton.mpr ⟨htotal, hcount (h e List.mem_cons_self) hmax⟩
  | case5 total e rest max hmax hmin first hgap others ih =>
    obtain ⟨he, hrest⟩ := List.forall_mem_cons.mp h
    exact List.forall_mem_cons.mpr ⟨⟨htotal, hcount he hmax⟩, ih (Nat.mod_lt _ (by decide)) hrest⟩

end LengthSum

namespace Rule

/-- The sum that finds the length of the marker. -/
def markerSum (r : Rule) : LengthSum := .ofElements 0 r.markerElements

theorem fixedMarkerLength?_eq_length (r : Rule) : r.fixedMarkerLength? = r.markerSum.length := by
  rw [markerSum, LengthSum.length_ofElements (by decide), fixedMarkerLength?]
  cases h : fixedLength? r.markerElements with
  | none => rfl
  | some n => rw [Option.map_some, Nat.zero_add, Nat.mod_eq_of_lt (fixedLength?_lt h)]

variable {file : RuleFile} {context : RuleContext} {d : PatternDef} {r : Rule}

/-- The length of a marker is a sum of numbers of 64 bits, kept in 64 bits. It is the true sum of the largest counts of
the marked elements just in case every addition on the way fits, and that is so just in case the counts that are added
have a true sum of 64 bits. -/
theorem fixedMarkerLength_sums {source : String} (hread : RuleFile.read source = .ok file)
    (hcontext : RuleContext.ofFile file = .ok context) (h : ComesFrom file context d r) :
    r.fixedMarkerLength? = r.markerSum.length ∧
      (∀ a ∈ r.markerSum.additions, a.total < UInt64.size ∧ a.count < UInt64.size) ∧
      ((∀ a ∈ r.markerSum.additions, a.Fits) ↔ r.markerSum.counts.sum < UInt64.size) ∧
      ∀ n, r.fixedMarkerLength? = some n →
        r.markerElements.map (·.max) = r.markerSum.counts.map .upTo ∧
          n = r.markerSum.counts.sum % UInt64.size ∧
          (n = r.markerSum.counts.sum ↔ ∀ a ∈ r.markerSum.additions, a.Fits) := by
  have hzero : 0 < UInt64.size := by decide
  have hcounts : ∀ e ∈ r.markerElements, e.max.IsCount := fun e he =>
    (h.hasCounts hread hcontext e (List.mem_of_mem_drop (List.mem_of_mem_take he))).max
  have hfits : (∀ a ∈ r.markerSum.additions, a.Fits) ↔ r.markerSum.counts.sum < UInt64.size := by
    have hall := LengthSum.forall_fits_iff hzero r.markerElements
    rwa [Nat.zero_add] at hall
  refine ⟨r.fixedMarkerLength?_eq_length, LengthSum.operands_lt hzero hcounts, hfits, fun n hn => ?_⟩
  rw [r.fixedMarkerLength?_eq_length] at hn
  obtain ⟨hmax, hsum⟩ := LengthSum.counts_of_length hzero hn
  rw [Nat.zero_add] at hsum
  refine ⟨hmax, hsum, ?_⟩
  rw [hfits, show n = r.markerSum.counts.sum % UInt64.size from hsum]
  exact Nat.mod_eq_iff_lt (by decide)

/-- What a function gives for the first rule of a source. -/
def ofFirstRule? {α : Type} (f : Rule → α) (source : String) : Option α :=
  (RuleFile.read source).toOption.bind fun file => (RuleContext.ofFile file).toOption.bind fun context =>
    file.rules.head?.bind fun d => (Compile.rules context d).toOption.bind fun rules => rules.head?.map f

theorem exists_of_ofFirstRule? {α : Type} {f : Rule → α} {source : String} {a : α} (h : ofFirstRule? f source = some a) :
    ∃ file context d r, RuleFile.read source = .ok file ∧ RuleContext.ofFile file = .ok context ∧
      ComesFrom file context d r ∧ f r = a := by
  obtain ⟨file, hread, h⟩ := Option.bind_eq_some_iff.mp h
  obtain ⟨context, hcontext, h⟩ := Option.bind_eq_some_iff.mp h
  obtain ⟨d, hd, h⟩ := Option.bind_eq_some_iff.mp h
  obtain ⟨rules, hrules, h⟩ := Option.bind_eq_some_iff.mp h
  obtain ⟨r, hr, h⟩ := Option.map_eq_some_iff.mp h
  rw [toOption_eq_some] at hread hcontext hrules
  exact ⟨file, context, d.pattern, r, hread, hcontext, .rule (List.mem_of_head? hd) hrules (List.mem_of_head? hr), h⟩

/-- A marker that takes as many tokens as a word can count, among elements with gaps and without a fixed count. -/
def longestMarker : String :=
  "rule R \x7b pattern \x7b [\"x\", max=*] marker \x7b [\"a\", min=18446744073709551614, max=18446744073709551614] " ++
    "[\"b\", skip=2] \x7d [\"c\"] \x7d message \"m\"; \x7d"

theorem fixedMarkerLength_longestMarker :
    ∃ file context d r, RuleFile.read longestMarker = .ok file ∧ RuleContext.ofFile file = .ok context ∧
      ComesFrom file context d r ∧ r.markerSum.additions = [⟨0, 2 ^ 64 - 2⟩, ⟨2 ^ 64 - 2, 1⟩] ∧
      (∀ a ∈ r.markerSum.additions, a.Fits) ∧ r.fixedMarkerLength? = some (2 ^ 64 - 1) ∧
      r.markerElements.map (·.max) = [.upTo (2 ^ 64 - 2), .upTo 1] := by
  have hrun : ofFirstRule? markerSum longestMarker =
      some ⟨[⟨0, 2 ^ 64 - 2⟩, ⟨2 ^ 64 - 2, 1⟩], some (2 ^ 64 - 1)⟩ := by decide +kernel
  obtain ⟨file, context, d, r, hread, hcontext, hcomes, hsum⟩ := exists_of_ofFirstRule? hrun
  obtain ⟨hlength, -, hfits, hcounts⟩ := fixedMarkerLength_sums hread hcontext hcomes
  rw [hsum] at hlength hfits hcounts
  obtain ⟨hmax, -, -⟩ := hcounts _ hlength
  exact ⟨file, context, d, r, hread, hcontext, hcomes, by rw [hsum], hsum ▸ hfits.mpr (by decide), hlength, hmax⟩

/-- One token more, and the word starts again. -/
def overlongMarker : String :=
  "rule R \x7b pattern \x7b [\"a\", min=18446744073709551615, max=18446744073709551615] [\"b\"] \x7d message \"m\"; \x7d"

/-- The marker takes 2 ^ 64 tokens, and its length is said to be zero. -/
theorem fixedMarkerLength_overlongMarker :
    ∃ file context d r, RuleFile.read overlongMarker = .ok file ∧ RuleContext.ofFile file = .ok context ∧
      ComesFrom file context d r ∧ r.markerElements.map (·.max) = [.upTo (2 ^ 64 - 1), .upTo 1] ∧
      r.fixedMarkerLength? = some 0 ∧ r.markerSum.additions = [⟨0, 2 ^ 64 - 1⟩, ⟨2 ^ 64 - 1, 1⟩] ∧
      ¬Addition.Fits ⟨2 ^ 64 - 1, 1⟩ := by
  have hrun : ofFirstRule? (fun r => (r.markerElements.map (·.max), r.fixedMarkerLength?, r.markerSum.additions))
      overlongMarker = some ([.upTo (2 ^ 64 - 1), .upTo 1], some 0, [⟨0, 2 ^ 64 - 1⟩, ⟨2 ^ 64 - 1, 1⟩]) := by
    decide +kernel
  obtain ⟨file, context, d, r, hread, hcontext, hcomes, hsum⟩ := exists_of_ofFirstRule? hrun
  simp only [Prod.mk.injEq] at hsum
  obtain ⟨hmax, hlength, hadditions⟩ := hsum
  exact ⟨file, context, d, r, hread, hcontext, hcomes, hmax, hlength, hadditions, by decide⟩

end Rule

end GrammarCheck
