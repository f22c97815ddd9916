import GrammarCheck.Proofs.Rule.Expansion
import GrammarCheck.Proofs.Source.Filled
import Mathlib.Algebra.GroupWithZero.Nat

/-! Where the tokens of a way stand. In a file without empty blocks each position of a pattern has tokens, one run after
another, and a marker holds some of them. In a phrase all tokens share the position of the reference, and since a
phrase has no marker, they are marked if the reference is. -/

namespace GrammarCheck

/-- The positions of elements in order, for the number of elements at each position from a first one on. -/
def positionsFrom (first : Nat) : List Nat → List Nat
  | [] => []
  | n :: rest => List.replicate n first ++ positionsFrom (first + 1) rest

theorem positionsFrom_append (first : Nat) (counts others : List Nat) :
    positionsFrom first (counts ++ others) =
      positionsFrom first counts ++ positionsFrom (first + counts.length) others := by
  induction counts generalizing first with
  | nil => rfl
  | cons n rest ih =>
    have hnext : first + 1 + rest.length = first + (n :: rest).length := by
      rw [List.length_cons]
      omega
    rw [List.cons_append, positionsFrom, positionsFrom, ih, hnext, List.append_assoc]

theorem length_positionsFrom (first : Nat) (counts : List Nat) : (positionsFrom first counts).length = counts.sum := by
  induction counts generalizing first with
  | nil => rfl
  | cons n rest ih => rw [positionsFrom, List.length_append, List.length_replicate, ih, List.sum_cons]

theorem le_of_mem_positionsFrom {first position : Nat} {counts : List Nat}
    (h : position ∈ positionsFrom first counts) : first ≤ position := by
  induction counts generalizing first with
  | nil => exact absurd h List.not_mem_nil
  | cons n rest ih =>
    rcases List.mem_append.mp h with hfirst | hrest
    · exact Nat.le_of_eq (List.eq_of_mem_replicate hfirst).symm
    · exact Nat.le_of_succ_le (ih hrest)

/-- Where no count is zero, each position has elements. -/
theorem mem_positionsFrom_iff {first position : Nat} {counts : List Nat} (hcounts : ∀ n ∈ counts, 1 ≤ n) :
    position ∈ positionsFrom first counts ↔ first ≤ position ∧ position < first + counts.length := by
  induction counts generalizing first with
  | nil => exact ⟨fun h => absurd h List.not_mem_nil, fun h => absurd h.2 (Nat.not_lt_of_le h.1)⟩
  | cons n rest ih =>
    obtain ⟨hfirst, hrest⟩ := List.forall_mem_cons.mp hcounts
    rw [positionsFrom, List.mem_append, List.mem_replicate, ih hrest, List.length_cons]
    omega

theorem pairwise_positionsFrom (first : Nat) (counts : List Nat) :
    (positionsFrom first counts).Pairwise (· ≤ ·) := by
  induction counts generalizing first with
  | nil => exact List.Pairwise.nil
  | cons n rest ih =>
    have hsame : (List.replicate n first).Pairwise (· ≤ ·) :=
      List.pairwise_replicate.mpr (Or.inr (Nat.le_refl first))
    refine List.pairwise_append.mpr ⟨hsame, ih (first + 1), fun i hi j hj => ?_⟩
    rw [List.eq_of_mem_replicate hi]
    exact Nat.le_of_succ_le (le_of_mem_positionsFrom hj)

/-- The numbers of elements are told by their positions. -/
theorem map_count_positionsFrom (first : Nat) (counts : List Nat) :
    (List.range' first counts.length).map (fun p => (positionsFrom first counts).count p) = counts := by
  induction counts generalizing first with
  | nil => rfl
  | cons n rest ih =>
    -- The first position does not come again later, and the later ones do not come in the first run.
    have hlater : (positionsFrom (first + 1) rest).count first = 0 :=
      List.count_eq_zero.mpr fun hmem => Nat.not_succ_le_self first (le_of_mem_positionsFrom hmem)
    have hrest : (List.range' (first + 1) rest.length).map (fun p => (positionsFrom first (n :: rest)).count p) =
        (List.range' (first + 1) rest.length).map fun p => (positionsFrom (first + 1) rest).count p := by
      refine List.map_congr_left fun p hp => ?_
      have hne : first ≠ p := Nat.ne_of_lt (List.mem_range'_1.mp hp).1
      rw [positionsFrom, List.count_append, List.count_replicate, if_neg (by simpa using hne), Nat.zero_add]
    rw [List.length_cons, List.range'_succ, List.map_cons, hrest, ih, positionsFrom, List.count_append,
      List.count_replicate_self, hlater, Nat.add_zero]

mutual

/-- Does an item have a marker in it? A phrase may not. -/
def PatternItem.hasMarker : PatternItem → Bool
  | .tokens _ => false
  | .phrase _ _ => false
  | .marker _ _ => true
  | .unify _ _ items _ => haveMarker items

def haveMarker : List PatternItem → Bool
  | [] => false
  | first :: rest => first.hasMarker || haveMarker rest

end

namespace Part

def hasMarker : Part → Bool
  | .item _ content => content.hasMarker
  | .items _ content => haveMarker content
  | .alternatives _ _ _ => false

/-- No block in the part is empty. -/
def Filled : Part → Prop
  | .item _ content => content.Filled
  | .items _ content => ∀ i ∈ content, i.Filled
  | .alternatives _ _ content => ∀ items ∈ content, FilledItems items

/-- The part is not a list without items. -/
def IsInhabited : Part → Prop
  | .item _ _ => True
  | .items _ content => content ≠ []
  | .alternatives _ _ _ => True

end Part

/-- No phrase that can be referred to is empty. -/
def RuleContext.Filled (context : RuleContext) : Prop :=
  ∀ name phrase, context.phrase? name = some phrase → phrase.Filled

namespace Derives

variable {context : RuleContext} {part : Part} {tally tally' : Tally} {ways : List Selection}

/-- Where every phrase has an alternative there is a way. -/
theorem ways_ne_nil (h : Derives context part tally ways tally') (hcontext : context.Filled)
    (hpart : ∀ place k, part ≠ .alternatives place k []) : ways ≠ [] := by
  induction h with
  | nil => exact List.cons_ne_nil _ _
  | tokens => exact List.cons_ne_nil _ _
  | noAlternative => exact absurd rfl (hpart _ _)
  | cons _ _ ihitem ihrest =>
    obtain ⟨a, ha⟩ := List.exists_mem_of_ne_nil _ (ihitem nofun)
    obtain ⟨b, hb⟩ := List.exists_mem_of_ne_nil _ (ihrest nofun)
    exact List.ne_nil_of_mem (Selection.mem_combine.mpr ⟨a, ha, b, hb, rfl⟩)
  | phrase hphrase _ ih =>
    refine ih fun place k heq => ?_
    injection heq with _ _ hnil
    exact (hcontext _ _ hphrase).1 hnil
  | marker _ _ _ ih => exact ih nofun
  | unify _ _ ih => exact ih nofun
  | alternative _ _ ihitems _ =>
    have hfirst : _ ≠ [] := ihitems nofun
    exact List.append_ne_nil_of_left_ne_nil (mt List.map_eq_nil_iff.mp hfirst) _

theorem tokens_ne_nil (h : Derives context part tally ways tally') (hcontext : context.Filled) (hpart : part.Filled)
    (hinhabited : part.IsInhabited) : ∀ way ∈ ways, way.tokens ≠ [] := by
  induction h with
  | nil => exact absurd rfl hinhabited
  | noAlternative => simp
  | tokens => simp
  | phrase hphrase _ ih => exact ih (hcontext _ _ hphrase).2 trivial
  | marker _ _ _ ih =>
    cases hpart with
    | marker hne hitems => exact ih hitems hne
  | unify _ _ ih =>
    cases hpart with
    | unify hne hitems => exact ih hitems hne
  | cons _ _ ihitem _ =>
    intro way hway
    obtain ⟨a, ha, b, -, rfl⟩ := Selection.mem_combine.mp hway
    have hfirst : a.tokens ≠ [] := ihitem (hpart _ List.mem_cons_self) trivial a ha
    exact List.append_ne_nil_of_left_ne_nil hfirst b.tokens
  | alternative _ _ ihitems ihrest =>
    obtain ⟨hfirst, hrest⟩ := List.forall_mem_cons.mp hpart
    intro way hway
    rcases List.mem_append.mp hway with hway | hway
    · obtain ⟨a, ha, rfl⟩ := List.mem_map.mp hway
      exact ihitems hfirst.2 hfirst.1 a ha
    · exact ihrest hrest trivial way hway

/-- In a phrase, all tokens have the position of the reference, and there is no marker. -/
theorem of_inPhrase (h : Derives context part tally ways tally') (hin : part.entry.inPhrase = true) :
    ∀ way ∈ ways, ∀ t ∈ way.tokens, t.position = part.entry.position ∧ t.inMarker = part.entry.inMarker := by
  induction h with
  | nil => simp
  | noAlternative => simp
  | tokens => simp [Part.entry, Place.token]
  | phrase _ _ ih => exact ih rfl
  | marker hout _ _ _ => exact nomatch hin.symm.trans hout
  | unify _ _ ih => exact ih hin
  | @cons place item _ _ _ _ _ _ _ _ ihitem ihrest =>
    have hposition : (place.next item).position = place.position := if_pos hin
    have hlater := ihrest hin
    simp only [Part.entry, hposition] at hlater
    exact Selection.forall_tokens_combine (ihitem hin) hlater
  | alternative _ _ ihitems ihrest => exact Selection.forall_tokens_taking_append _ (ihitems rfl) (ihrest rfl)

/-- Outside of phrases, the positions of a part come one after another, and each has tokens. -/
theorem exists_counts (h : Derives context part tally ways tally') (hcontext : context.Filled) (hpart : part.Filled)
    (hout : part.entry.inPhrase = false) : ∀ way ∈ ways, ∃ counts : List Nat,
      counts.length = part.positionCount ∧ (∀ n ∈ counts, 0 < n) ∧
        way.tokens.map (·.position) = positionsFrom part.entry.position counts := by
  induction h with
  | nil =>
    intro way hway
    rw [List.mem_singleton.mp hway]
    exact ⟨[], rfl, List.forall_mem_nil _, rfl⟩
  | noAlternative => exact nomatch hout
  | alternative => exact nomatch hout
  | tokens =>
    intro way hway
    rw [List.mem_singleton.mp hway]
    exact ⟨[1], rfl, by simp, rfl⟩
  | @phrase place _ _ phrase _ _ _ hphrase halternatives _ =>
    -- All tokens of the phrase count for the one position of the reference.
    intro way hway
    have hne : way.tokens ≠ [] := halternatives.tokens_ne_nil hcontext (hcontext _ _ hphrase).2 trivial way hway
    have hsame : ∀ p ∈ way.tokens.map (·.position), p = place.position := by
      intro p hp
      obtain ⟨t, ht, rfl⟩ := List.mem_map.mp hp
      exact (halternatives.of_inPhrase rfl way hway t ht).1
    refine ⟨[way.tokens.length], rfl, ?_, ?_⟩
    · exact List.forall_mem_singleton.mpr (List.length_pos_iff.mpr hne)
    · have hreplicate := List.eq_replicate_iff.mpr ⟨List.length_map _, hsame⟩
      rw [hreplicate]
      exact (List.append_nil _).symm
  | marker _ _ _ ih =>
    cases hpart with
    | marker _ hitems => exact ih hitems hout
  | unify _ _ ih =>
    cases hpart with
    | unify _ hitems => exact ih hitems hout
  | @cons place item rest _ _ _ _ _ _ _ ihitem ihrest =>
    intro way hway
    obtain ⟨a, ha, b, hb, rfl⟩ := Selection.mem_combine.mp hway
    obtain ⟨hfirst, hrest⟩ := List.forall_mem_cons.mp hpart
    obtain ⟨counts, hlength, hpos, htokens⟩ := ihitem hfirst hout a ha
    obtain ⟨others, hlength', hpos', htokens'⟩ := ihrest hrest hout b hb
    have hplace : place.inPhrase = false := hout
    -- The place behind the item is as many positions on as the item has counts.
    have hnext : (place.next item).position = place.position + counts.length := by
      rw [hlength]
      exact if_neg (by rw [hplace]; exact Bool.false_ne_true)
    refine ⟨counts ++ others, ?_, List.forall_mem_append.mpr ⟨hpos, hpos'⟩, ?_⟩
    · rw [List.length_append, hlength, hlength']
      rfl
    · rw [Selection.append, List.map_append, htokens, htokens', positionsFrom_append]
      exact congrArg (fun p => positionsFrom place.position counts ++ positionsFrom p others) hnext

/-- Outside of the marker, a part has marked tokens if it has a marker. -/
theorem exists_inMarker_iff (h : Derives context part tally ways tally') (hcontext : context.Filled)
    (hpart : part.Filled) (hplace : part.entry.inMarker = false) :
    ∀ way ∈ ways, (∃ t ∈ way.tokens, t.inMarker = true) ↔ part.hasMarker = true := by
  induction h with
  | nil => simp [Part.hasMarker, haveMarker]
  | noAlternative => simp
  | @tokens place _ _ =>
    have hunmarked : place.inMarker = false := hplace
    simp [Part.hasMarker, PatternItem.hasMarker, Place.token, hunmarked]
  | phrase _ halternatives _ =>
    intro way hway
    constructor
    · rintro ⟨t, ht, hmarked⟩
      rw [(halternatives.of_inPhrase rfl way hway t ht).2.trans hplace] at hmarked
      cases hmarked
    · intro hmarker
      cases hmarker
  | marker _ _ hitems _ =>
    intro way hway
    cases hpart with
    | marker hne hfilled =>
      obtain ⟨t, ht⟩ := List.exists_mem_of_ne_nil _ (hitems.tokens_ne_nil hcontext hfilled hne way hway)
      exact ⟨fun _ => rfl, fun _ => ⟨t, ht, hitems.inMarker_of_place rfl way hway t ht⟩⟩
  | unify _ _ ih =>
    cases hpart with
    | unify _ hitems => exact ih hitems hplace
  | cons _ _ ihitem ihrest =>
    intro way hway
    obtain ⟨a, ha, b, hb, rfl⟩ := Selection.mem_combine.mp hway
    obtain ⟨hfirst, hrest⟩ := List.forall_mem_cons.mp hpart
    have hitem := ihitem hfirst hplace a ha
    have hlater := ihrest hrest hplace b hb
    simp only [Part.hasMarker, haveMarker, Bool.or_eq_true, Selection.append, List.mem_append] at hitem hlater ⊢
    rw [← hitem, ← hlater]
    constructor
    · rintro ⟨t, ht | ht, hmarked⟩
      · exact Or.inl ⟨t, ht, hmarked⟩
      · exact Or.inr ⟨t, ht, hmarked⟩
    · rintro (⟨t, ht, hmarked⟩ | ⟨t, ht, hmarked⟩)
      · exact ⟨t, Or.inl ht, hmarked⟩
      · exact ⟨t, Or.inr ht, hmarked⟩
  | @alternative place k _ _ _ _ _ _ _ hitems hrest _ _ =>
    intro way hway
    constructor
    · rintro ⟨t, ht, hmarked⟩
      rw [((Derives.alternative hitems hrest).of_inPhrase rfl way hway t ht).2.trans hplace] at hmarked
      cases hmarked
    · intro hmarker
      cases hmarker

end Derives

end GrammarCheck
