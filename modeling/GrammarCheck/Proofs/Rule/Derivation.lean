import GrammarCheck.Proofs.Contiguous
import GrammarCheck.Proofs.Rule.Choice
import Mathlib.Data.List.Infix
import Mathlib.Data.List.Nodup
import Mathlib.Data.List.Pairwise

/-! The expansion of a pattern as a derivation. It keeps all ways through the part of the pattern that has been expanded,
and the blocks of agreement that were met on any of them. From its rules follow, each by one induction: which ways
there are, that none is kept twice, and that blocks and the marker hold tokens that stand together. -/

namespace GrammarCheck

/-- A way through a part of a pattern. -/
structure Selection where
  choice : List Nat
  tokens : List ChosenToken
  deriving DecidableEq

/-- What has been met so far. -/
structure Tally where
  markerSeen : Bool
  blocks : List UnifyBlock

/-- A part of a pattern: an item, items one after another, or the alternatives of a phrase from one of them on. -/
inductive Part where
  | item (place : Place) (content : PatternItem)
  | items (place : Place) (content : List PatternItem)
  | alternatives (place : Place) (first : Nat) (content : List (List PatternItem))

namespace Part

def place : Part → Place
  | .item place _ => place
  | .items place _ => place
  | .alternatives place _ _ => place

@[simp] theorem place_item (place : Place) (content : PatternItem) : (item place content).place = place := rfl

/-- The ways through a part. -/
def HasWay (context : RuleContext) : Part → Selection → Prop
  | .item place content, way => ItemChosen context place content way.choice way.tokens
  | .items place content, way => Chosen context place content way.choice way.tokens
  | .alternatives place first content, way => ∃ k alternative choice, content[k]? = some alternative ∧
      way.choice = (first + k) :: choice ∧ Chosen context (place.inAlternative (first + k)) alternative choice way.tokens

/-- The addresses that belong to a part. -/
def Holds : Part → List Nat → Prop
  | .item place _, address => place.address <:+ address
  | .items place _, address => ∃ k, place.index ≤ k ∧ k :: place.path <:+ address
  | .alternatives place first _, address => ∃ k, first ≤ k ∧ k :: place.address <:+ address

end Part

namespace Selection

def append (a b : Selection) : Selection := ⟨a.choice ++ b.choice, a.tokens ++ b.tokens⟩

/-- The way that takes an alternative first. -/
def taking (k : Nat) (way : Selection) : Selection := ⟨k :: way.choice, way.tokens⟩

/-- Neither choice is the beginning of the other one. -/
def Apart (a b : Selection) : Prop := ∀ x y, a.choice ++ x ≠ b.choice ++ y

instance : Std.Symm Apart where
  symm _ _ h := fun x y heq => h y x heq.symm

/-- All ways through a part followed by ways through the part behind it. -/
def combine (first later : List Selection) : List Selection :=
  later.flatMap fun b => first.map fun a => a.append b

theorem mem_combine {first later : List Selection} {way : Selection} :
    way ∈ combine first later ↔ ∃ a ∈ first, ∃ b ∈ later, a.append b = way := by
  simp only [combine, List.mem_flatMap, List.mem_map]
  exact ⟨fun ⟨b, hb, a, ha, h⟩ => ⟨a, ha, b, hb, h⟩, fun ⟨a, ha, b, hb, h⟩ => ⟨b, hb, a, ha, h⟩⟩

variable {Q : ChosenToken → Prop} {first later : List Selection}

theorem forall_tokens_combine (hfirst : ∀ way ∈ first, ∀ t ∈ way.tokens, Q t)
    (hlater : ∀ way ∈ later, ∀ t ∈ way.tokens, Q t) : ∀ way ∈ combine first later, ∀ t ∈ way.tokens, Q t := by
  intro way hway t ht
  obtain ⟨a, ha, b, hb, rfl⟩ := mem_combine.mp hway
  rcases List.mem_append.mp ht with ht | ht
  · exact hfirst a ha t ht
  · exact hlater b hb t ht

theorem forall_tokens_taking_append (k : Nat) (hfirst : ∀ way ∈ first, ∀ t ∈ way.tokens, Q t)
    (hothers : ∀ way ∈ later, ∀ t ∈ way.tokens, Q t) :
    ∀ way ∈ first.map (·.taking k) ++ later, ∀ t ∈ way.tokens, Q t := by
  intro way hway t ht
  rcases List.mem_append.mp hway with hway | hway
  · obtain ⟨a, ha, rfl⟩ := List.mem_map.mp hway
    exact hfirst a ha t ht
  · exact hothers way hway t ht

end Selection

/-- The derivation of the ways through a part of a pattern, from what was met before it to what was met after it. -/
inductive Derives (context : RuleContext) : Part → Tally → List Selection → Tally → Prop
  | nil {place tally} : Derives context (.items place []) tally [⟨[], []⟩] tally
  | cons {place item rest tally tally₁ tally₂ first later}
      (hitem : Derives context (.item place item) tally first tally₁)
      (hrest : Derives context (.items (place.next item) rest) tally₁ later tally₂) :
      Derives context (.items place (item :: rest)) tally (Selection.combine first later) tally₂
  | tokens {place group tally} :
      Derives context (.item place (.tokens group)) tally [⟨[], [place.token group]⟩] tally
  | phrase {place name location phrase tally ways tally₁} (hphrase : context.phrase? name = some phrase)
      (halternatives : Derives context (.alternatives place 0 phrase.alternatives) tally ways tally₁) :
      Derives context (.item place (.phrase name location)) tally ways tally₁
  | marker {place items location tally ways tally₁} (hout : place.inPhrase = false) (hseen : tally.markerSeen = false)
      (hitems : Derives context (.items place.marked items) { tally with markerSeen := true } ways tally₁) :
      Derives context (.item place (.marker items location)) tally ways tally₁
  | unify {place features negate items location tally ways tally₁} (hblock : place.block = none)
      (hitems : Derives context (.items (place.unified features negate) items)
        { tally with blocks := tally.blocks ++ [place.unifyBlock features negate] } ways tally₁) :
      Derives context (.item place (.unify features negate items location)) tally ways tally₁
  | noAlternative {place k tally} : Derives context (.alternatives place k []) tally [] tally
  | alternative {place k items rest tally tally₁ tally₂ first others}
      (hitems : Derives context (.items (place.inAlternative k) items) tally first tally₁)
      (hrest : Derives context (.alternatives place (k + 1) rest) tally₁ others tally₂) :
      Derives context (.alternatives place k (items :: rest)) tally (first.map (·.taking k) ++ others) tally₂

namespace Derives

variable {context : RuleContext} {part : Part} {tally tally' : Tally} {ways : List Selection}

/-- A derivation keeps exactly the ways that there are. -/
theorem mem_iff (h : Derives context part tally ways tally') (way : Selection) :
    way ∈ ways ↔ part.HasWay context way := by
  induction h generalizing way with
  | nil =>
    rw [List.mem_singleton]
    constructor
    · rintro rfl
      exact Chosen.nil
    · obtain ⟨choice, tokens⟩ := way
      intro hway
      cases hway with
      | nil => rfl
  | cons _ _ ihitem ihrest =>
    rw [Selection.mem_combine]
    constructor
    · rintro ⟨a, ha, b, hb, rfl⟩
      exact Chosen.cons ((ihitem a).mp ha) ((ihrest b).mp hb)
    · obtain ⟨choice, tokens⟩ := way
      intro hway
      cases hway with
      | cons hitem hrest => exact ⟨⟨_, _⟩, (ihitem _).mpr hitem, ⟨_, _⟩, (ihrest _).mpr hrest, rfl⟩
  | tokens =>
    rw [List.mem_singleton]
    constructor
    · rintro rfl
      exact ItemChosen.tokens
    · obtain ⟨choice, tokens⟩ := way
      intro hway
      cases hway with
      | tokens => rfl
  | phrase hphrase _ ih =>
    rw [ih]
    obtain ⟨choice, tokens⟩ := way
    constructor
    · rintro ⟨k, alternative, choice', hk, rfl, hitems⟩
      rw [Nat.zero_add] at hitems ⊢
      exact ItemChosen.phrase hphrase hk hitems
    · intro hway
      cases hway with
      | phrase hphrase' hk hitems =>
        rw [hphrase, Option.some_inj] at hphrase'
        subst hphrase'
        exact ⟨_, _, _, hk, by rw [Nat.zero_add], by rwa [Nat.zero_add]⟩
  | marker _ _ _ ih =>
    rw [ih]
    obtain ⟨choice, tokens⟩ := way
    constructor
    · exact fun hitems => ItemChosen.marker hitems
    · intro hway
      cases hway with
      | marker hitems => exact hitems
  | unify _ _ ih =>
    rw [ih]
    obtain ⟨choice, tokens⟩ := way
    constructor
    · exact fun hitems => ItemChosen.unify hitems
    · intro hway
      cases hway with
      | unify hitems => exact hitems
  | noAlternative => simp [Part.HasWay]
  | @alternative place k items rest _ _ _ _ _ _ _ ihitems ihrest =>
    rw [List.mem_append, List.mem_map, ihrest]
    constructor
    · rintro (⟨a, ha, rfl⟩ | ⟨j, alternative, choice, hj, hchoice, hitems⟩)
      · exact ⟨0, items, a.choice, rfl, rfl, (ihitems a).mp ha⟩
      · refine ⟨j + 1, alternative, choice, hj, ?_, ?_⟩
        · rw [hchoice, show k + (j + 1) = k + 1 + j by omega]
        · rwa [show k + (j + 1) = k + 1 + j by omega]
    · rintro ⟨j, alternative, choice, hj, hchoice, hitems⟩
      cases j with
      | zero =>
        rw [List.getElem?_cons_zero, Option.some_inj] at hj
        subst hj
        exact Or.inl ⟨⟨choice, way.tokens⟩, (ihitems _).mpr hitems,
          congrArg (fun c => Selection.mk c way.tokens) hchoice.symm⟩
      | succ j =>
        refine Or.inr ⟨j, alternative, choice, hj, ?_, ?_⟩
        · rw [hchoice, show k + (j + 1) = k + 1 + j by omega]
        · rwa [show k + (j + 1) = k + 1 + j by omega] at hitems

/-- No way is kept twice: of two ways that are kept, neither choice is the beginning of the other one. -/
theorem pairwise_apart (h : Derives context part tally ways tally') : ways.Pairwise Selection.Apart := by
  induction h with
  | nil => exact List.pairwise_singleton _ _
  | tokens => exact List.pairwise_singleton _ _
  | phrase _ _ ih => exact ih
  | marker _ _ _ ih => exact ih
  | unify _ _ ih => exact ih
  | noAlternative => exact List.Pairwise.nil
  | cons _ _ ihitem ihrest =>
    rw [Selection.combine, List.pairwise_flatMap]
    constructor
    · intro b _
      rw [List.pairwise_map]
      refine ihitem.imp fun hapart x y heq => hapart (b.choice ++ x) (b.choice ++ y) ?_
      simpa only [Selection.append, List.append_assoc] using heq
    · -- Equal ways through the item leave it to the items behind it; other ones are apart already.
      refine ihrest.imp fun {b b'} hapart => ?_
      rintro _ hmem _ hmem' x y heq
      obtain ⟨a, ha, rfl⟩ := List.mem_map.mp hmem
      obtain ⟨a', ha', rfl⟩ := List.mem_map.mp hmem'
      simp only [Selection.append, List.append_assoc] at heq
      by_cases hsame : a = a'
      · subst hsame
        exact hapart x y (List.append_cancel_left heq)
      · exact ihitem.forall ha ha' hsame _ _ heq
  | @alternative place k _ _ _ _ _ _ _ _ hrest ihitems ihrest =>
    rw [List.pairwise_append, List.pairwise_map]
    refine ⟨ihitems.imp fun hapart x y heq => hapart x y (List.cons.inj heq).2, ihrest, ?_⟩
    rintro _ ha b hb x y heq
    obtain ⟨a, -, rfl⟩ := List.mem_map.mp ha
    obtain ⟨j, _, choice, -, hchoice, -⟩ := (hrest.mem_iff b).mp hb
    rw [hchoice] at heq
    have hhead : k = k + 1 + j := (List.cons.inj heq).1
    omega

theorem nodup_choices (h : Derives context part tally ways tally') : (ways.map (·.choice)).Nodup := by
  rw [List.Nodup, List.pairwise_map]
  refine h.pairwise_apart.imp fun {a b} hapart heq => hapart [] [] ?_
  rw [heq]

theorem suffix_of_cons_suffix {k : Nat} {path address : List Nat} (h : k :: path <:+ address) : path <:+ address :=
  (List.suffix_cons k path).trans h

theorem eq_of_cons_suffix {j k : Nat} {path address : List Nat} (hj : j :: path <:+ address)
    (hk : k :: path <:+ address) : j = k := by
  have hsuffix := List.suffix_of_suffix_length_le hj hk (Nat.le_refl _)
  exact (List.cons.inj (hsuffix.eq_of_length rfl)).1

/-- Blocks are met one after another, each of them once, and those of a part belong to it. -/
theorem exists_blocks (h : Derives context part tally ways tally') :
    ∃ met, tally'.blocks = tally.blocks ++ met ∧ (met.map (·.address)).Nodup ∧
      ∀ b ∈ met, part.Holds b.address := by
  induction h with
  | nil => exact ⟨[], (List.append_nil _).symm, List.nodup_nil, by simp⟩
  | tokens => exact ⟨[], (List.append_nil _).symm, List.nodup_nil, by simp⟩
  | noAlternative => exact ⟨[], (List.append_nil _).symm, List.nodup_nil, by simp⟩
  | @cons place _ _ _ _ _ _ _ _ _ ihitem ihrest =>
    obtain ⟨met, hmet, hnodup, hholds⟩ := ihitem
    obtain ⟨others, hothers, hnodup', hholds'⟩ := ihrest
    refine ⟨met ++ others, by rw [hothers, hmet, List.append_assoc], ?_, ?_⟩
    · rw [List.map_append, List.nodup_append']
      refine ⟨hnodup, hnodup', fun address ha ha' => ?_⟩
      obtain ⟨b, hb, rfl⟩ := List.mem_map.mp ha
      obtain ⟨b', hb', heq⟩ := List.mem_map.mp ha'
      obtain ⟨k, hk, hsuffix⟩ := hholds' b' hb'
      rw [heq] at hsuffix
      have hindex : place.index = k := eq_of_cons_suffix (hholds b hb) hsuffix
      have hnext : place.index + 1 ≤ k := hk
      omega
    · intro b hb
      rcases List.mem_append.mp hb with hb | hb
      · exact ⟨place.index, Nat.le_refl _, hholds b hb⟩
      · obtain ⟨k, hk, hsuffix⟩ := hholds' b hb
        exact ⟨k, Nat.le_of_succ_le hk, hsuffix⟩
  | phrase _ _ ih =>
    obtain ⟨met, hmet, hnodup, hholds⟩ := ih
    refine ⟨met, hmet, hnodup, fun b hb => ?_⟩
    obtain ⟨k, -, hsuffix⟩ := hholds b hb
    exact suffix_of_cons_suffix hsuffix
  | marker _ _ _ ih =>
    obtain ⟨met, hmet, hnodup, hholds⟩ := ih
    refine ⟨met, hmet, hnodup, fun b hb => ?_⟩
    obtain ⟨k, -, hsuffix⟩ := hholds b hb
    exact suffix_of_cons_suffix hsuffix
  | @unify place features negate _ _ _ _ _ _ _ ih =>
    obtain ⟨met, hmet, hnodup, hholds⟩ := ih
    refine ⟨place.unifyBlock features negate :: met, by rw [hmet, List.append_assoc, List.singleton_append], ?_, ?_⟩
    · rw [List.map_cons, List.nodup_cons]
      refine ⟨fun hmem => ?_, hnodup⟩
      obtain ⟨b, hb, heq⟩ := List.mem_map.mp hmem
      obtain ⟨k, -, hsuffix⟩ := hholds b hb
      have hlength := hsuffix.length_le
      rw [heq, List.length_cons] at hlength
      exact absurd hlength (Nat.not_succ_le_self _)
    · intro b hb
      rcases List.mem_cons.mp hb with rfl | hb
      · exact List.suffix_refl _
      · obtain ⟨k, -, hsuffix⟩ := hholds b hb
        exact suffix_of_cons_suffix hsuffix
  | @alternative place k _ _ _ _ _ _ _ _ _ ihitems ihrest =>
    obtain ⟨met, hmet, hnodup, hholds⟩ := ihitems
    obtain ⟨others, hothers, hnodup', hholds'⟩ := ihrest
    have hfirst (b) (hb : b ∈ met) : k :: place.address <:+ b.address := by
      obtain ⟨_, -, hsuffix⟩ := hholds b hb
      exact suffix_of_cons_suffix hsuffix
    refine ⟨met ++ others, by rw [hothers, hmet, List.append_assoc], ?_, ?_⟩
    · rw [List.map_append, List.nodup_append']
      refine ⟨hnodup, hnodup', fun address ha ha' => ?_⟩
      obtain ⟨b, hb, rfl⟩ := List.mem_map.mp ha
      obtain ⟨b', hb', heq⟩ := List.mem_map.mp ha'
      obtain ⟨j, hj, hsuffix⟩ := hholds' b' hb'
      rw [heq] at hsuffix
      have hindex : k = j := eq_of_cons_suffix (hfirst b hb) hsuffix
      omega
    · intro b hb
      rcases List.mem_append.mp hb with hb | hb
      · exact ⟨k, Nat.le_refl _, hfirst b hb⟩
      · obtain ⟨j, hj, hsuffix⟩ := hholds' b hb
        exact ⟨j, Nat.le_of_succ_le hj, hsuffix⟩

/-- What holds of a place and is handed on to all places in it and behind it holds of the tokens. -/
theorem forall_tokens_of_place {P : Place → Prop} {Q : ChosenToken → Prop}
    (htoken : ∀ place group, P place → Q (place.token group)) (hnext : ∀ place item, P place → P (place.next item))
    (hinside : ∀ place k, P place → P (place.inAlternative k)) (hmarked : ∀ place, P place → P place.marked)
    (hunified : ∀ place features negate, place.block = none → P place → P (place.unified features negate))
    (h : Derives context part tally ways tally') (hplace : P part.place) : ∀ way ∈ ways, ∀ t ∈ way.tokens, Q t := by
  induction h with
  | nil => simp
  | noAlternative => simp
  | tokens => simpa using htoken _ _ hplace
  | phrase _ _ ih => exact ih hplace
  | marker _ _ _ ih => exact ih (hmarked _ hplace)
  | unify hblock _ ih => exact ih (hunified _ _ _ hblock hplace)
  | cons _ _ ihitem ihrest =>
    exact Selection.forall_tokens_combine (ihitem hplace) (ihrest (hnext _ _ hplace))
  | alternative _ _ ihitems ihrest =>
    exact Selection.forall_tokens_taking_append _ (ihitems (hinside _ _ hplace)) (ihrest hplace)

/-- In a block, all tokens belong to it. -/
theorem block_of_place (h : Derives context part tally ways tally') {b : UnifyBlock}
    (hplace : part.place.block = some b) : ∀ way ∈ ways, ∀ t ∈ way.tokens, t.block = some b := by
  refine forall_tokens_of_place (P := fun place => place.block = some b) (fun _ _ hown => hown) (fun _ _ hown => hown)
    (fun _ _ hown => hown) (fun _ hown => hown) (fun place features negate hnone hown => ?_) h hplace
  rw [hnone] at hown
  exact nomatch hown

/-- The blocks of tokens have been met. -/
theorem block_mem (h : Derives context part tally ways tally')
    (hplace : ∀ b, part.place.block = some b → b ∈ tally.blocks) :
    ∀ way ∈ ways, ∀ t ∈ way.tokens, ∀ b, t.block = some b → b ∈ tally'.blocks := by
  induction h with
  | nil => simp
  | noAlternative => simp
  | tokens => simpa [Place.token] using hplace
  | phrase _ _ ih => exact ih hplace
  | marker _ _ _ ih => exact ih hplace
  | unify _ _ ih =>
    refine ih fun b hb => ?_
    rw [← Option.some_inj.mp hb]
    exact List.mem_append_right _ (List.mem_singleton_self _)
  | cons hitem hrest ihitem ihrest =>
    -- What the item met is still there after the items behind it.
    obtain ⟨met, hmet, -⟩ := hitem.exists_blocks
    obtain ⟨others, hothers, -⟩ := hrest.exists_blocks
    refine Selection.forall_tokens_combine (fun way hway t ht b hb => ?_) (ihrest fun b hb => ?_)
    · rw [hothers]
      exact List.mem_append_left _ (ihitem hplace way hway t ht b hb)
    · rw [hmet]
      exact List.mem_append_left _ (hplace b hb)
  | alternative hitems hrest ihitems ihrest =>
    obtain ⟨met, hmet, -⟩ := hitems.exists_blocks
    obtain ⟨others, hothers, -⟩ := hrest.exists_blocks
    refine Selection.forall_tokens_taking_append _ (fun way hway t ht b hb => ?_) (ihrest fun b hb => ?_)
    · rw [hothers]
      exact List.mem_append_left _ (ihitems hplace way hway t ht b hb)
    · rw [hmet]
      exact List.mem_append_left _ (hplace b hb)

/-- Outside of blocks, the tokens of a part are in blocks of the part. -/
theorem holds_block (h : Derives context part tally ways tally') (hplace : part.place.block = none) :
    ∀ way ∈ ways, ∀ t ∈ way.tokens, ∀ b, t.block = some b → part.Holds b.address := by
  induction h with
  | nil => simp
  | noAlternative => simp
  | @tokens place _ _ =>
    have hnone : place.block = none := hplace
    simp [Place.token, hnone]
  | phrase _ _ ih =>
    intro way hway t ht b hb
    obtain ⟨k, -, hsuffix⟩ := ih hplace way hway t ht b hb
    exact suffix_of_cons_suffix hsuffix
  | marker _ _ _ ih =>
    intro way hway t ht b hb
    obtain ⟨k, -, hsuffix⟩ := ih hplace way hway t ht b hb
    exact suffix_of_cons_suffix hsuffix
  | unify _ hitems _ =>
    intro way hway t ht b hb
    rw [hitems.block_of_place rfl way hway t ht] at hb
    rw [← Option.some_inj.mp hb]
    exact List.suffix_refl _
  | @cons place _ _ _ _ _ _ _ _ _ ihitem ihrest =>
    refine Selection.forall_tokens_combine (fun way hway t ht b hb => ?_) (fun way hway t ht b hb => ?_)
    · exact ⟨place.index, Nat.le_refl _, ihitem hplace way hway t ht b hb⟩
    · obtain ⟨k, hk, hsuffix⟩ := ihrest hplace way hway t ht b hb
      exact ⟨k, Nat.le_of_succ_le hk, hsuffix⟩
  | @alternative place k _ _ _ _ _ _ _ _ _ ihitems ihrest =>
    refine Selection.forall_tokens_taking_append _ (fun way hway t ht b hb => ?_) (fun way hway t ht b hb => ?_)
    · obtain ⟨_, -, hsuffix⟩ := ihitems hplace way hway t ht b hb
      exact ⟨k, Nat.le_refl _, suffix_of_cons_suffix hsuffix⟩
    · obtain ⟨j, hj, hsuffix⟩ := ihrest hplace way hway t ht b hb
      exact ⟨j, Nat.le_of_succ_le hj, hsuffix⟩

/-- The tokens of a block stand together. -/
theorem contiguous_block (h : Derives context part tally ways tally') (b : UnifyBlock) :
    ∀ way ∈ ways, Contiguous (fun t : ChosenToken => t.block = some b) way.tokens := by
  induction h with
  | nil => exact fun way hway => .of_forall_not (by simp [List.mem_singleton.mp hway])
  | noAlternative => simp
  | tokens =>
    intro way hway
    rw [List.mem_singleton.mp hway]
    exact .singleton _ _
  | phrase _ _ ih => exact ih
  | marker _ _ _ ih => exact ih
  | unify _ _ ih => exact ih
  | @cons place _ _ _ _ _ _ _ hitem hrest ihitem ihrest =>
    intro way hway
    obtain ⟨a, ha, c, hc, rfl⟩ := Selection.mem_combine.mp hway
    cases hplace : place.block with
    | some b' =>
      -- All tokens are in the block around.
      have hall := (Derives.cons hitem hrest).block_of_place hplace _ hway
      by_cases hsame : b' = b
      · exact .of_forall fun t ht => (hall t ht).trans (congrArg some hsame)
      · exact .of_forall_not fun t ht heq => hsame (Option.some_inj.mp ((hall t ht).symm.trans heq))
    | none =>
      by_cases hfirst : ∃ t ∈ a.tokens, t.block = some b
      · -- A block of the item is not one of the items behind it.
        obtain ⟨t, ht, hb⟩ := hfirst
        have hown := hitem.holds_block hplace a ha t ht b hb
        refine (ihitem a ha).append_right fun t' ht' hb' => ?_
        obtain ⟨k, hk, hsuffix⟩ := hrest.holds_block hplace c hc t' ht' b hb'
        have hindex : place.index = k := eq_of_cons_suffix hown hsuffix
        have hnext : place.index + 1 ≤ k := hk
        omega
      · exact (ihrest c hc).append_left fun t ht hb => hfirst ⟨t, ht, hb⟩
  | alternative _ _ ihitems ihrest =>
    intro way hway
    rcases List.mem_append.mp hway with hway | hway
    · obtain ⟨a, ha, rfl⟩ := List.mem_map.mp hway
      exact ihitems a ha
    · exact ihrest way hway

/-- In the marker, all tokens are marked. -/
theorem inMarker_of_place (h : Derives context part tally ways tally') (hplace : part.place.inMarker = true) :
    ∀ way ∈ ways, ∀ t ∈ way.tokens, t.inMarker = true :=
  forall_tokens_of_place (P := fun place => place.inMarker = true) (fun _ _ hown => hown) (fun _ _ hown => hown)
    (fun _ _ hown => hown) (fun _ _ => rfl) (fun _ _ _ _ hown => hown) h hplace

theorem markerSeen_mono (h : Derives context part tally ways tally') (hseen : tally.markerSeen = true) :
    tally'.markerSeen = true := by
  induction h with
  | nil => exact hseen
  | noAlternative => exact hseen
  | tokens => exact hseen
  | phrase _ _ ih => exact ih hseen
  | marker _ _ _ ih => exact ih rfl
  | unify _ _ ih => exact ih hseen
  | cons _ _ ihitem ihrest => exact ihrest (ihitem hseen)
  | alternative _ _ ihitems ihrest => exact ihrest (ihitems hseen)

private theorem split_markerSeen {part₁ part₂ : Part} {tally₁ : Tally} {ways₁ ways₂ : List Selection}
    (h₁ : Derives context part₁ tally ways₁ tally₁) (h₂ : Derives context part₂ tally₁ ways₂ tally')
    (hseen : tally.markerSeen = true ∨ tally'.markerSeen = false) :
    (tally.markerSeen = true ∨ tally₁.markerSeen = false) ∧ (tally₁.markerSeen = true ∨ tally'.markerSeen = false) := by
  rcases hseen with hseen | hseen
  · exact ⟨Or.inl hseen, Or.inl (h₁.markerSeen_mono hseen)⟩
  · have hbetween : tally₁.markerSeen = false := by
      cases hmet : tally₁.markerSeen with
      | true => rw [h₂.markerSeen_mono hmet] at hseen; exact nomatch hseen
      | false => rfl
    exact ⟨Or.inr hbetween, Or.inr hseen⟩

/-- Outside of the marker, the tokens of a part are not marked unless the marker is met in the part. -/
theorem not_inMarker (h : Derives context part tally ways tally') (hplace : part.place.inMarker = false)
    (hseen : tally.markerSeen = true ∨ tally'.markerSeen = false) :
    ∀ way ∈ ways, ∀ t ∈ way.tokens, t.inMarker = false := by
  induction h with
  | nil => simp
  | noAlternative => simp
  | tokens => simpa [Place.token] using hplace
  | phrase _ _ ih => exact ih hplace hseen
  | marker _ hunseen hitems _ =>
    have hmet := hitems.markerSeen_mono rfl
    rw [hunseen, hmet] at hseen
    simp at hseen
  | unify _ _ ih => exact ih hplace hseen
  | cons hitem hrest ihitem ihrest =>
    obtain ⟨hfirst, hlater⟩ := split_markerSeen hitem hrest hseen
    exact Selection.forall_tokens_combine (ihitem hplace hfirst) (ihrest hplace hlater)
  | alternative hitems hrest ihitems ihrest =>
    obtain ⟨hfirst, hlater⟩ := split_markerSeen hitems hrest hseen
    exact Selection.forall_tokens_taking_append _ (ihitems hplace hfirst) (ihrest hplace hlater)

/-- The marked tokens stand together. -/
theorem contiguous_inMarker (h : Derives context part tally ways tally') :
    ∀ way ∈ ways, Contiguous (fun t : ChosenToken => t.inMarker = true) way.tokens := by
  induction h with
  | nil => exact fun way hway => .of_forall_not (by simp [List.mem_singleton.mp hway])
  | noAlternative => simp
  | tokens =>
    intro way hway
    rw [List.mem_singleton.mp hway]
    exact .singleton _ _
  | phrase _ _ ih => exact ih
  | marker _ _ _ ih => exact ih
  | unify _ _ ih => exact ih
  | @cons place _ _ _ tally₁ _ _ _ hitem hrest ihitem ihrest =>
    intro way hway
    obtain ⟨a, ha, c, hc, rfl⟩ := Selection.mem_combine.mp hway
    cases hplace : place.inMarker with
    | true => exact .of_forall ((Derives.cons hitem hrest).inMarker_of_place hplace _ hway)
    | false =>
      -- There is one marker, so it is not met on both sides.
      cases hseen : tally₁.markerSeen with
      | true =>
        have hlater := hrest.not_inMarker hplace (Or.inl hseen) c hc
        exact (ihitem a ha).append_right fun t ht => by simp [hlater t ht]
      | false =>
        have hfirst := hitem.not_inMarker hplace (Or.inr hseen) a ha
        exact (ihrest c hc).append_left fun t ht => by simp [hfirst t ht]
  | alternative _ _ ihitems ihrest =>
    intro way hway
    rcases List.mem_append.mp hway with hway | hway
    · obtain ⟨a, ha, rfl⟩ := List.mem_map.mp hway
      exact ihitems a ha
    · exact ihrest way hway

end Derives

end GrammarCheck
