import GrammarCheck.Match
import GrammarCheck.Proofs.Agreement
import Mathlib.Data.List.Lex

/-! Matches of a rule said without a search. An assignment gives a span to each element: a run of tokens that meets the
element's conditions, or an empty span if the element may be left out. A gap may stand before a run unless an
exception of the element before it forbids one of its tokens, and each group of agreement is judged once, on all its
tokens. -/

namespace GrammarCheck

/-- What an element may take from a cursor on, after the spans taken before it. The guard is the element whose
exceptions on the next token hold in the gap, the first token of the run included. -/
structure Consumes (s : Sentence) (cursor : Nat) (gap : Bound) (guard : Option Element) (before : List Taken)
    (e : Element) (span : Span) : Prop where
  cursor_le : cursor ≤ span.start
  in_gap : gap.admits (span.start - cursor) = true
  stop_le : span.stop ≤ s.size
  low : max e.min 1 ≤ span.size
  high : e.max.admits span.size = true
  met : ∀ i ∈ span.indices, e.matchesAt s i (some ⟨s, boundSpans before e.position⟩) = true
  unguarded : ∀ g, guard = some g → ∀ i, cursor ≤ i → i ≤ span.start → g.nextExceptionAt s i none = false

/-- Spans for elements one after another. The gap after an element is its own; an element that is left out adds its
gap to the one before, and takes over the guard if it has exceptions on the next token. -/
inductive Assigned (s : Sentence) : Nat → Bound → Option Element → List Taken → List Taken → Prop
  | done {cursor gap guard before} : Assigned s cursor gap guard before []
  | consumed {cursor gap guard before e span rest} (hspan : Consumes s cursor gap guard before e span)
      (hrest : Assigned s span.stop e.skip (Point.guardOf e) (before ++ [(e, span)]) rest) :
      Assigned s cursor gap guard before ((e, span) :: rest)
  | absent {cursor gap guard before e rest} (hmin : e.min = 0)
      (hrest : Assigned s cursor (gap.add e.skip) ((Point.guardOf e).or guard)
        (before ++ [(e, .empty cursor)]) rest) :
      Assigned s cursor gap guard before ((e, .empty cursor) :: rest)

def Taken.isIn (group : Nat) (t : Taken) : Bool := (t.1.agreement.map (·.group)) == some group

/-- The tokens that the elements of a group took. -/
def groupTokens (s : Sentence) (group : Nat) (taken : List Taken) : List Token :=
  (taken.filter (Taken.isIn group)).flatMap fun t => s.slice t.2

/-- A way to match a rule that starts at a token. -/
structure ValidAssignment (r : Rule) (s : Sentence) (i : Nat) (taken : List Taken) : Prop where
  elements : taken.map (·.1) = r.elements
  spans : Assigned s i (.upTo 0) none [] taken
  nonempty : ∃ t ∈ taken, t.2.isEmpty = false
  groups : ∀ e ∈ r.elements, ∀ slot, e.agreement = some slot →
    slot.Accepts r.features (groupTokens s slot.group taken)

/-- A span is preferred to one that starts later, to a shorter one that starts with it, and to an empty one. -/
def Span.Preferred (a b : Span) : Prop :=
  a.isEmpty = false ∧ (b.isEmpty = true ∨ a.start < b.start ∨ (a.start = b.start ∧ b.stop < a.stop))

/-- Assignments are compared at the first element to which they give different spans. -/
def PreferredAssignment (a b : List Taken) : Prop := List.Lex Span.Preferred (a.map (·.2)) (b.map (·.2))

theorem Condition.holds_of_reference_eq_none {c : Condition} (h : c.reference = none) (t : Token)
    (b b' : Option Bindings) : c.holds t b = c.holds t b' := by
  simp only [Condition.holds, Condition.evaluate, Condition.referenceHolds, h]

namespace Element

theorem reference_eq_none {e : Element} (h : e.hasReferences = false) {c : Condition}
    (hc : c ∈ e.condition :: e.others ++ e.exceptions.map (·.condition)) : c.reference = none := by
  have hnil : e.references = [] := by simpa [hasReferences] using h
  exact List.filterMap_eq_nil_iff.mp hnil c hc

/-- Bindings mean nothing to an element without references. -/
theorem matchesAt_of_hasReferences_eq_false {e : Element} (h : e.hasReferences = false) (s : Sentence) (i : Nat)
    (b b' : Option Bindings) : e.matchesAt s i b = e.matchesAt s i b' := by
  have hexceptions : e.exceptions.any (vetoedBy s i b) = e.exceptions.any (vetoedBy s i b') := by
    rw [Bool.eq_iff_iff, List.any_eq_true, List.any_eq_true]
    refine exists_congr fun x => and_congr_right fun hx => ?_
    have hnone : x.condition.reference = none :=
      reference_eq_none h (List.mem_append_right _ (List.mem_map_of_mem hx))
    simp only [vetoedBy, Condition.holds_of_reference_eq_none hnone _ b b']
  unfold matchesAt
  split
  · rfl
  · rename_i t _
    have hcondition : e.condition.holds t b = e.condition.holds t b' :=
      Condition.holds_of_reference_eq_none (reference_eq_none h (by simp)) t b b'
    have hothers : (e.others.all (·.holds t b)) = e.others.all (·.holds t b') := by
      rw [Bool.eq_iff_iff, List.all_eq_true, List.all_eq_true]
      refine forall₂_congr fun c hc => ?_
      rw [Condition.holds_of_reference_eq_none (reference_eq_none h (by simp [hc])) t b b']
    rw [hcondition, hothers, hexceptions]

theorem matchesAt_bindings? (e : Element) (p : Point) (s : Sentence) (i : Nat) :
    e.matchesAt s i (p.bindings? s e) = e.matchesAt s i (some ⟨s, boundSpans p.taken e.position⟩) := by
  unfold Point.bindings?
  split
  · rfl
  · rename_i h
    exact matchesAt_of_hasReferences_eq_false (by simpa using h) s i _ _

end Element

instance : Std.Asymm Span.Preferred where
  asymm a b := by
    rintro ⟨hne, hab⟩ ⟨hne', hba⟩
    rw [hne'] at hab
    rw [hne] at hba
    rcases hab with hempty | hlt | ⟨heq, hlt⟩
    · exact nomatch hempty
    · rcases hba with hempty | hlt' | ⟨heq', -⟩
      · exact nomatch hempty
      · omega
      · omega
    · rcases hba with hempty | hlt' | ⟨-, hlt'⟩
      · exact nomatch hempty
      · omega
      · omega

/-- No two assignments are preferred to each other. -/
theorem PreferredAssignment.asymm {a b : List Taken} (h : PreferredAssignment a b) : ¬PreferredAssignment b a :=
  Std.Asymm.asymm (r := List.Lex Span.Preferred) _ _ h

end GrammarCheck
