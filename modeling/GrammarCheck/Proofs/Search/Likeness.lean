import GrammarCheck.Proofs.Search.Assignment
import Mathlib.Data.List.Forall2

/-! Rules that act alike. The search asks an element which tokens it matches and which ones it forbids behind it, and
nothing else of its conditions, so elements with the same answers may stand for one another: step by step the searches
reach points with the same spans, and they find the same matches. -/

namespace GrammarCheck

/-- The second element answers the search as the first one does. One that may be left out has to be as much of a guard,
since it takes the place of the one before it. -/
structure Element.ActsLike (e e' : Element) : Prop where
  min : e'.min = e.min
  max : e'.max = e.max
  skip : e'.skip = e.skip
  agreement : e'.agreement = e.agreement
  position : e'.position = e.position
  matchesAt : ∀ s i b, e'.matchesAt s i (some b) = e.matchesAt s i (some b)
  nextExceptionAt : ∀ s i, e'.nextExceptionAt s i none = e.nextExceptionAt s i none
  guards : e.min = 0 → e'.hasNextExceptions = e.hasNextExceptions

theorem Element.ActsLike.refl (e : Element) : e.ActsLike e :=
  ⟨rfl, rfl, rfl, rfl, rfl, fun _ _ _ => rfl, fun _ _ => rfl, fun _ => rfl⟩

namespace Counted

variable {α β γ δ : Type}

/-- Both computations fail in the same way, or they take the same steps and give related results. -/
def Alike (R : α → β → Prop) (x : Counted α) (y : Counted β) : Prop :=
  ∀ steps, (∃ a b after, x steps = .ok (a, after) ∧ y steps = .ok (b, after) ∧ R a b) ∨
    ∃ e, x steps = .error e ∧ y steps = .error e

variable {R : α → β → Prop} {Q : γ → δ → Prop}

theorem Alike.of_pure {a : α} {b : β} (h : R a b) : Alike R (pure a) (pure b) :=
  fun steps => Or.inl ⟨a, b, steps, rfl, rfl, h⟩

theorem Alike.refl (x : Counted α) : Alike Eq x x := by
  intro steps
  cases hx : x steps with
  | error e => exact Or.inr ⟨e, rfl, rfl⟩
  | ok outcome => exact Or.inl ⟨outcome.1, outcome.1, outcome.2, rfl, rfl, rfl⟩

theorem Alike.eq {x y : Counted α} (h : Alike Eq x y) : x = y := by
  funext steps
  rcases h steps with ⟨a, _, after, hx, hy, rfl⟩ | ⟨e, hx, hy⟩
  · rw [hx, hy]
  · rw [hx, hy]

theorem Alike.bind {x : Counted α} {y : Counted β} {f : α → Counted γ} {g : β → Counted δ} (h : Alike R x y)
    (hrest : ∀ a b, R a b → Alike Q (f a) (g b)) : Alike Q (x >>= f) (y >>= g) := by
  intro steps
  have hleft : (x >>= f) steps = (x steps >>= fun outcome => f outcome.1 outcome.2) := rfl
  have hright : (y >>= g) steps = (y steps >>= fun outcome => g outcome.1 outcome.2) := rfl
  rw [hleft, hright]
  rcases h steps with ⟨a, b, after, hx, hy, hab⟩ | ⟨e, hx, hy⟩
  · rw [hx, hy]
    exact hrest a b hab after
  · rw [hx, hy]
    exact Or.inr ⟨e, rfl, rfl⟩

end Counted

section Lists

variable {ι α β : Type} {R : α → β → Prop}

theorem forall₂_filterMap {f : ι → Option α} {g : ι → Option β} (h : ∀ i, Option.Rel R (f i) (g i)) (l : List ι) :
    List.Forall₂ R (l.filterMap f) (l.filterMap g) := by
  induction l with
  | nil => exact .nil
  | cons i rest ih =>
    rw [List.filterMap_cons, List.filterMap_cons]
    have hi := h i
    generalize f i = a at hi
    generalize g i = b at hi
    cases hi with
    | some hab => exact .cons hab ih
    | none => exact ih

theorem forall₂_flatMap {f : ι → List α} {g : ι → List β} (h : ∀ i, List.Forall₂ R (f i) (g i)) (l : List ι) :
    List.Forall₂ R (l.flatMap f) (l.flatMap g) := by
  induction l with
  | nil => exact .nil
  | cons i rest ih => exact List.rel_append (h i) ih

theorem forall₂_toList {a : Option α} {b : Option β} (h : Option.Rel R a b) : List.Forall₂ R a.toList b.toList := by
  cases h with
  | some hab => exact .cons hab .nil
  | none => exact .nil

end Lists

/-- The elements act alike and took the same span. -/
def Taken.ActsLike (t t' : Taken) : Prop := t.1.ActsLike t'.1 ∧ t'.2 = t.2

theorem spans_filter_of_actsLike {taken taken' : List Taken} (h : List.Forall₂ Taken.ActsLike taken taken')
    {p : Element → Bool} (hp : ∀ e e', e.ActsLike e' → p e' = p e) :
    (taken'.filter fun t => p t.1).map (·.2) = (taken.filter fun t => p t.1).map (·.2) := by
  induction h with
  | nil => rfl
  | cons hfirst _ ih =>
    rw [List.filter_cons, List.filter_cons, hp _ _ hfirst.1]
    split
    · rw [List.map_cons, List.map_cons, ih, hfirst.2]
    · exact ih

namespace Point

/-- The points have the same spans, and their guards forbid the same tokens. -/
structure ActsLike (p p' : Point) : Prop where
  cursor : p'.cursor = p.cursor
  gap : p'.gap = p.gap
  agreement : p'.agreement = p.agreement
  unified : p'.unified = p.unified
  taken : List.Forall₂ Taken.ActsLike p.taken p'.taken
  guard : ∀ s i, p'.guard.any (·.nextExceptionAt s i none) = p.guard.any (·.nextExceptionAt s i none)

variable {p p' : Point} {e e' : Element} {g g' : Option Element}

theorem ActsLike.refl (p : Point) : p.ActsLike p where
  cursor := rfl
  gap := rfl
  agreement := rfl
  unified := rfl
  taken := List.forall₂_same.mpr fun t _ => ⟨Element.ActsLike.refl t.1, rfl⟩
  guard _ _ := rfl

theorem ActsLike.spans (h : p.ActsLike p') : p'.spans = p.spans := by
  have hspans := spans_filter_of_actsLike h.taken (p := fun _ => true) fun _ _ _ => rfl
  rwa [List.filter_true, List.filter_true] at hspans

theorem ActsLike.boundSpans (h : p.ActsLike p') (positions : Nat) :
    boundSpans p'.taken positions = boundSpans p.taken positions := by
  refine List.map_congr_left fun position _ => ?_
  unfold boundSpan
  rw [spans_filter_of_actsLike h.taken (p := fun e => e.position == position) fun _ _ he => by rw [he.position]]

theorem ActsLike.starts (h : p.ActsLike p') (s : Sentence) : p'.starts s = p.starts s := by
  unfold Point.starts
  rw [h.cursor, h.gap]
  simp only [h.guard]

theorem any_guardOf (e : Element) (s : Sentence) (i : Nat) :
    (guardOf e).any (·.nextExceptionAt s i none) = e.nextExceptionAt s i none := by
  unfold guardOf
  split
  · rfl
  · rename_i hnone
    -- Without exceptions on the next token there is none that could hold.
    rw [Element.hasNextExceptions, Bool.not_eq_true, List.any_eq_false] at hnone
    rw [Option.any_none, eq_comm, Element.nextExceptionAt]
    cases s.token? i with
    | none => rfl
    | some t =>
      rw [Option.any_some, List.any_eq_false]
      intro x hx
      rw [Bool.eq_false_iff.mpr (hnone x hx), Bool.false_and]
      exact Bool.false_ne_true

theorem ActsLike.advance (h : p.ActsLike p') (he : e.ActsLike e') (span : Span) (gap : Bound)
    (hguard : ∀ s i, g'.any (·.nextExceptionAt s i none) = g.any (·.nextExceptionAt s i none)) :
    (p.advance e span gap g).ActsLike (p'.advance e' span gap g') where
  cursor := rfl
  gap := rfl
  agreement := h.agreement
  unified := h.unified
  taken := List.rel_append h.taken (.cons ⟨he, rfl⟩ .nil)
  guard := hguard

theorem ActsLike.settle? (h : p.ActsLike p') (he : e.ActsLike e') (a : Agreement) :
    Option.Rel ActsLike (p.settle? e a) (p'.settle? e' a) := by
  unfold Point.settle?
  rw [he.agreement]
  split
  · exact .some h
  · split
    · exact .some { h with agreement := rfl }
    · split
      · exact .some { h with agreement := rfl, unified := by rw [h.unified] }
      · exact .none

theorem ActsLike.takeFrom (h : p.ActsLike p') (he : e.ActsLike e') (table : FeatureTable) (s : Sentence) (i : Nat) :
    List.Forall₂ ActsLike (p.takeFrom table s e i) (p'.takeFrom table s e' i) := by
  have hmatches (j : Nat) : e'.matchesAt s j (p'.bindings? s e') = e.matchesAt s j (p.bindings? s e) := by
    rw [Element.matchesAt_bindings?, Element.matchesAt_bindings?, he.matchesAt, he.position, h.boundSpans]
  have hguard (s : Sentence) (i : Nat) :
      (guardOf e').any (·.nextExceptionAt s i none) = (guardOf e).any (·.nextExceptionAt s i none) := by
    rw [any_guardOf, any_guardOf, he.nextExceptionAt]
  unfold Point.takeFrom
  simp only [hmatches, he.min, he.max, he.skip, he.agreement, h.agreement]
  split
  · rw [List.forall₂_map_left_iff, List.forall₂_map_right_iff, List.forall₂_same]
    exact fun n _ => h.advance he _ _ hguard
  · refine forall₂_filterMap (fun n => ?_) _
    cases (agreements p.agreement table _ (s.slice _))[n - 1]? with
    | none => exact .none
    | some a => exact (h.advance he _ _ hguard).settle? he a

theorem ActsLike.leaveOut (h : p.ActsLike p') (he : e.ActsLike e') :
    List.Forall₂ ActsLike (p.leaveOut e) (p'.leaveOut e') := by
  unfold Point.leaveOut
  rw [he.min, h.cursor, h.gap, he.skip, h.agreement]
  split
  · rename_i hmin
    refine forall₂_toList ((h.advance he _ _ fun s i => ?_).settle? he _)
    have hhas := he.guards hmin
    cases hown : e.hasNextExceptions with
    | true =>
      rw [hown] at hhas
      rw [guardOf, guardOf, if_pos hown, if_pos hhas, Option.some_or, Option.some_or]
      exact he.nextExceptionAt s i
    | false =>
      rw [hown] at hhas
      rw [guardOf, guardOf, hown, hhas, if_neg Bool.false_ne_true, if_neg Bool.false_ne_true, Option.none_or,
        Option.none_or]
      exact h.guard s i
  · exact .nil

theorem ActsLike.successors (h : p.ActsLike p') (he : e.ActsLike e') (table : FeatureTable) (s : Sentence) :
    List.Forall₂ ActsLike (p.successors table s e) (p'.successors table s e') := by
  unfold Point.successors
  rw [h.starts]
  exact List.rel_append (forall₂_flatMap (h.takeFrom he table s) _) (h.leaveOut he)

end Point

namespace Search

theorem alike_firstSome {f f' : Point → Counted (Option Point)} {ps ps' : List Point}
    (h : List.Forall₂ Point.ActsLike ps ps')
    (hf : ∀ p p', p.ActsLike p' → Counted.Alike (Option.Rel Point.ActsLike) (f p) (f' p')) :
    Counted.Alike (Option.Rel Point.ActsLike) (firstSome f ps) (firstSome f' ps') := by
  induction h with
  | nil => exact .of_pure .none
  | cons hfirst _ ih =>
    rw [firstSome, firstSome]
    refine (hf _ _ hfirst).bind fun o o' ho => ?_
    cases ho with
    | some hp => exact .of_pure (.some hp)
    | none => exact ih

/-- Elements that act alike lead the search over points that act alike. -/
theorem alike_explore (table : FeatureTable) (s : Sentence) (limit : Option Nat) {elements elements' : List Element}
    (h : List.Forall₂ Element.ActsLike elements elements') {p p' : Point} (hp : p.ActsLike p') :
    Counted.Alike (Option.Rel Point.ActsLike) (explore table s limit elements p) (explore table s limit elements' p') := by
  induction h generalizing p p' with
  | nil =>
    rw [explore, explore]
    refine (Counted.Alike.refl (tick limit)).bind fun _ _ _ => .of_pure ?_
    rw [Point.isNonempty, Point.isNonempty, hp.spans]
    split
    · exact .some hp
    · exact .none
  | cons he _ ih =>
    rw [explore, explore]
    exact (Counted.Alike.refl (tick limit)).bind fun _ _ _ =>
      alike_firstSome (hp.successors he table s) fun _ _ hnext => ih hnext

end Search

namespace Rule

variable {r : Rule} {elements : List Element}

theorem ofPoint_actsLike (s : Sentence) {p p' : Point} (h : p.ActsLike p') :
    Match.ofPoint { r with elements } s p' = Match.ofPoint r s p := by
  have hunified (range : Span) : Match.unifiedIn range p'.taken = Match.unifiedIn range p.taken := by
    have hspans := spans_filter_of_actsLike h.taken (p := fun e => e.agreement.isSome) fun _ _ he => by
      rw [he.agreement]
    unfold Match.unifiedIn
    rw [← List.flatMap_map, hspans, List.flatMap_map]
  unfold Match.ofPoint
  simp only [h.boundSpans, h.spans, h.unified, hunified]
  rfl

theorem matchesFrom_actsLike (h : List.Forall₂ Element.ActsLike r.elements elements) (s : Sentence)
    (limit : Option Nat) (i : Nat) (last : Option Span) :
    ({ r with elements } : Rule).matchesFrom s limit i last = r.matchesFrom s limit i last := by
  -- The scans go on at the same tokens, so the induction is on those that are left.
  induction hleft : s.size - i using Nat.strongRecOn generalizing i last with
  | ind left ih =>
    rw [matchesFrom.eq_def _ s limit i last, matchesFrom.eq_def r s limit i last]
    split
    · refine (Counted.Alike.bind (Search.alike_explore r.features s limit h (.refl (.start i)))
        fun o o' ho => ?_).eq.symm
      cases ho with
      | none =>
        dsimp only
        rw [ih _ (by omega) (i + 1) last rfl]
        exact Counted.Alike.refl _
      | @some p p' hp =>
        have hlt := r.lt_resume i (Match.ofPoint r s p)
        have hrest := ih _ (by omega) (r.resume i (Match.ofPoint r s p)) (some (Match.ofPoint r s p).pattern) rfl
        have hresume (m : Match) : ({ r with elements } : Rule).resume i m = r.resume i m := rfl
        simp only [ofPoint_actsLike s hp, hresume, hrest]
        exact Counted.Alike.refl _
    · rfl

/-- Rules whose elements act alike find the same matches. -/
theorem findMatches_actsLike (h : List.Forall₂ Element.ActsLike r.elements elements) (s : Sentence)
    (limit : Option Nat) : ({ r with elements } : Rule).findMatches s limit = r.findMatches s limit := by
  have hempty : elements.isEmpty = r.elements.isEmpty := by
    rw [Bool.eq_iff_iff, List.isEmpty_iff_length_eq_zero, List.isEmpty_iff_length_eq_zero, h.length_eq]
  unfold findMatches
  rw [matchesFrom_actsLike h]
  dsimp only
  rw [hempty]

end Rule

end GrammarCheck
