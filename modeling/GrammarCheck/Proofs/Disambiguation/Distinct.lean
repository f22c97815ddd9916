import GrammarCheck.Proofs.Disambiguation.Kept
import GrammarCheck.RuleSet
import Mathlib.Data.List.Nodup

/-! The readings of a token as a set. Each action leaves them all different if they were so, but for a filter that
replaces tags: it may write one tag for two, and then readings with the same base form become the same. -/

namespace GrammarCheck

open Success

namespace Reference

variable {r : Reference}

/-- The replacement of tags makes no two tags the same that the filter lets pass. -/
def KeepsTagsApart (r : Reference) : Prop :=
  ∀ a b : Reading, r.acceptsTag a = true → r.acceptsTag b = true →
    a.tag.map r.replaceTag = b.tag.map r.replaceTag → a.tag = b.tag

/-- This is what it takes for the filter to keep different readings different. -/
theorem nodup_filterReadings_iff :
    (∀ t : Token, t.readings.Nodup → (r.filterReadings t).Nodup) ↔ r.KeepsTagsApart := by
  constructor
  · intro hnodup a b ha hb hsame
    by_contra hne
    -- A token with the two tags and no base forms would be left with one reading twice.
    have hpair : ([⟨none, a.tag⟩, ⟨none, b.tag⟩] : List Reading).Nodup := by simp [hne]
    have hfilter := hnodup { (default : Token) with readings := [⟨none, a.tag⟩, ⟨none, b.tag⟩] } hpair
    have hpass : [⟨none, a.tag⟩, ⟨none, b.tag⟩].filter r.acceptsTag = [⟨none, a.tag⟩, ⟨none, b.tag⟩] := by
      rw [List.filter_eq_self, List.forall_mem_cons, List.forall_mem_singleton]
      exact ⟨ha, hb⟩
    unfold filterReadings at hfilter
    dsimp only at hfilter
    rw [hpass, List.map_cons, List.map_cons, hsame] at hfilter
    exact (List.nodup_cons.mp hfilter).1 List.mem_cons_self
  · intro hapart t ht
    refine List.Nodup.map_on (fun a ha b hb hsame => ?_) (ht.filter _)
    obtain ⟨hbase, htag⟩ := Reading.mk.inj hsame
    have htags := hapart a b (List.mem_filter.mp ha).2 (List.mem_filter.mp hb).2 htag
    obtain ⟨base, tag⟩ := a
    exact congrArg₂ Reading.mk hbase htags

theorem tag_eq_of_acceptsTag {text : String} (hr : r.tagFilter = some (.literal text)) {a : Reading}
    (h : r.acceptsTag a = true) : a.tag = some text := by
  unfold acceptsTag at h
  rw [hr, Option.all_some, Option.any_eq_true] at h
  obtain ⟨tag, htag, haccepts⟩ := h
  have hsame : tag = text := beq_iff_eq.mp haccepts
  rw [htag, hsame]

/-- Does the filter replace no tags, or let no other than a literal one pass? -/
def rewritesOneTag (r : Reference) : Bool := r.tagReplacement.isNone || r.tagFilter.any (!·.isRegex)

theorem keepsTagsApart_of_rewritesOneTag (h : r.rewritesOneTag = true) : r.KeepsTagsApart := by
  intro a b ha hb hsame
  rcases Bool.or_eq_true_iff.mp h with hnone | hone
  · have hkeep (tag : String) : r.replaceTag tag = tag := by
      rw [replaceTag, Option.isNone_iff_eq_none.mp hnone]
    rwa [funext hkeep, Option.map_id', Option.map_id'] at hsame
  · obtain ⟨m, hm, hliteral⟩ := (Option.any_eq_true _ _).mp hone
    cases m with
    | literal text => exact (tag_eq_of_acceptsTag hm ha).trans (tag_eq_of_acceptsTag hm hb).symm
    | regex source anchored => cases hliteral

end Reference

namespace Token

variable {t : Token}

theorem nodup_setReadings (ht : t.readings.Nodup) {readings : List Reading} (h : readings.Nodup) :
    (t.setReadings readings).readings.Nodup := by
  unfold setReadings
  split
  · exact ht
  · exact h

theorem nodup_addReading (ht : t.readings.Nodup) (reading : Reading) : (t.addReading reading).readings.Nodup := by
  unfold addReading
  split
  · exact ht
  · rename_i hnew
    rw [List.contains_iff_mem] at hnew
    exact ht.append (List.nodup_singleton reading) (List.disjoint_singleton.mpr hnew)

end Token

/-- What an action does to a token leaves its readings different, if a filter does so. -/
theorem Action.Edits.nodup {a : Action} {f : Token → Token} (h : a.Edits f)
    (ha : ∀ reference, a = .filter reference → reference.KeepsTagsApart) {t : Token} (ht : t.readings.Nodup) :
    (f t).readings.Nodup := by
  cases h with
  | retag tag => exact Token.nodup_setReadings ht (List.nodup_singleton _)
  | replace _ _ => exact Token.nodup_setReadings ht (List.nodup_singleton _)
  | add _ => exact Token.nodup_addReading ht _
  | remove _ _ => exact Token.nodup_setReadings ht (ht.filter _)
  | filter reference =>
    exact Token.nodup_setReadings ht (Reference.nodup_filterReadings_iff.mpr (ha reference rfl) t ht)
  | immunize => exact ht
  | ignoreSpelling => exact ht

/-- Filters that find a token under the marker of a match keep its tags apart. -/
def FiltersApart (rules : List DisambiguationRule) (limit : Option Nat) (s : Sentence) (i : Nat) : Prop :=
  ∀ before r after reference, rules = before ++ r :: after → r.action = .filter reference →
    (∃ ms, r.rule.findMatches (disambiguate before limit s) limit = .ok ms ∧ ∃ m ∈ ms, m.range.contains i = true) →
      reference.KeepsTagsApart

def Action.rewritesOneTag : Action → Bool
  | filter reference => reference.rewritesOneTag
  | _ => true

theorem filtersApart_of_rewritesOneTag {rules : List DisambiguationRule}
    (h : ∀ r ∈ rules, r.action.rewritesOneTag = true) (limit : Option Nat) (s : Sentence) (i : Nat) :
    FiltersApart rules limit s i := by
  rintro before r after reference rfl hfilter -
  have hr := h r (List.mem_append_right _ List.mem_cons_self)
  rw [hfilter] at hr
  exact Reference.keepsTagsApart_of_rewritesOneTag hr

/-- The readings of a token stay all different, unless a filter that is run on it writes one tag for two. -/
theorem nodup_readings_disambiguate {rules : List DisambiguationRule} {limit : Option Nat} {s : Sentence} {i : Nat}
    (hs : ∀ t ∈ s.tokens, t.readings.Nodup) (hrules : FiltersApart rules limit s i) :
    ∀ t, (disambiguate rules limit s).token? i = some t → t.readings.Nodup := by
  refine (disambiguate_edits rules limit s).keeps
    (P := fun s' => ∀ t, s'.token? i = some t → t.readings.Nodup) (fun s' j f hedit hs' t ht => ?_)
    (fun _ h => h) fun t ht => hs t (List.mem_of_getElem? ht)
  rcases eq_or_ne j i with rfl | hother
  · rw [Sentence.token?_modifyToken_self] at ht
    obtain ⟨t', ht', rfl⟩ := Option.map_eq_some_iff.mp ht
    obtain ⟨before, r, after, hsplit, ms, hms, hf, hmarked⟩ := hedit
    refine hf.nodup (fun reference hreference => ?_) (hs' t' ht')
    exact hrules before r after reference hsplit hreference ⟨ms, hms, hmarked⟩
  · rw [Sentence.token?_modifyToken_of_ne hother] at ht
    exact hs' t ht

/-- Adds a reading and filters twice, first without a replacement and then for one tag. -/
def renamedTag : String :=
  "disambig A \x7b pattern \x7b [\"walk\"] \x7d action add; wd lemma=\"walk\" pos=\"JJ\"; \x7d " ++
    "disambig B \x7b pattern \x7b [\"walk\"] \x7d action filter pos~\"NN|VB\"; \x7d " ++
    "disambig C \x7b pattern \x7b [pos=\"VB\"] \x7d action filter pos=\"VB\" replace=\"V\"; \x7d"

theorem nodup_readings_renamedTag :
    ∃ (set : RuleSet) (s : Sentence) (t : Token), RuleSet.load renamedTag = .ok set ∧
      set.disambiguation.length = 3 ∧ (∀ t ∈ s.tokens, t.readings.Nodup) ∧
      FiltersApart set.disambiguation none s 1 ∧ (disambiguate set.disambiguation none s).token? 1 = some t ∧
      t.readings = [.of "walk" "V", .of "walking" "V"] ∧ t.readings.Nodup := by
  let s : Sentence := .ofTokens [.sentenceStart,
    .new "walk" [.of "walk" "NN", .of "walk" "VB", .of "walking" "VB"]]
  have hs : ∀ t ∈ s.tokens, t.readings.Nodup := by decide +kernel
  have hrun : ((RuleSet.load renamedTag).toOption.bind fun set =>
      ((disambiguate set.disambiguation none s).token? 1).map fun t =>
        (set.disambiguation.length, set.disambiguation.all (·.action.rewritesOneTag), t.readings)) =
      some (3, true, [.of "walk" "V", .of "walking" "V"]) := by decide +kernel
  obtain ⟨set, hload, hrun⟩ := Option.bind_eq_some_iff.mp hrun
  obtain ⟨t, ht, hvalues⟩ := Option.map_eq_some_iff.mp hrun
  simp only [Prod.mk.injEq] at hvalues
  obtain ⟨hlength, hfilters, hreadings⟩ := hvalues
  have hapart := filtersApart_of_rewritesOneTag (List.all_eq_true.mp hfilters) none s 1
  exact ⟨set, s, t, toOption_eq_some.mp hload, hlength, hs, hapart, ht, hreadings,
    nodup_readings_disambiguate hs hapart t ht⟩

/-- Writes one tag for two. -/
def mergedTags : String :=
  "disambig D \x7b pattern \x7b [\"walk\"] \x7d action filter pos~\"NN|VB\" replace=\"X\"; \x7d"

theorem readings_mergedTags :
    ∃ (set : RuleSet) (s : Sentence) (t : Token), RuleSet.load mergedTags = .ok set ∧
      (∀ t ∈ s.tokens, t.readings.Nodup) ∧ (disambiguate set.disambiguation none s).token? 1 = some t ∧
      ¬t.readings.Nodup := by
  let s : Sentence := .ofTokens [.sentenceStart, .new "walk" [.of "walk" "NN", .of "walk" "VB"]]
  have hs : ∀ t ∈ s.tokens, t.readings.Nodup := by decide +kernel
  have hrun : ((RuleSet.load mergedTags).toOption.bind fun set =>
      ((disambiguate set.disambiguation none s).token? 1).map (·.readings)) =
      some [.of "walk" "X", .of "walk" "X"] := by decide +kernel
  obtain ⟨set, hload, hrun⟩ := Option.bind_eq_some_iff.mp hrun
  obtain ⟨t, ht, hreadings⟩ := Option.map_eq_some_iff.mp hrun
  refine ⟨set, s, t, toOption_eq_some.mp hload, hs, ht, ?_⟩
  rw [hreadings]
  decide

end GrammarCheck
