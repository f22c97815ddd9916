import GrammarCheck.Proofs.Rule.Grouping
import GrammarCheck.Proofs.Search.Matches

/-! Exceptions on the next token. Those of an element are tested on all tokens from behind its span up to the first one that
a later element takes, as long as no element that is left out between them has such exceptions of its own. One that has
takes the place of the guard, so the exceptions from before are not looked at any more. -/

namespace GrammarCheck

open Success

namespace Element

/-- No exception on the next token has a reference. -/
def HasPlainNextExceptions (e : Element) : Prop :=
  ∀ x ∈ e.exceptions, x.scope = .next → x.condition.reference = none

/-- Where the guard finds nothing, no exception on the next token holds, whatever is bound. -/
theorem holds_eq_false_of_nextExceptionAt {e : Element} (hplain : e.HasPlainNextExceptions) {s : Sentence} {j : Nat}
    (h : e.nextExceptionAt s j none = false) {x : TokenException} (hx : x ∈ e.exceptions) (hscope : x.scope = .next)
    {t : Token} (ht : s.token? j = some t) (b : Option Bindings) : x.condition.holds t b = false := by
  unfold nextExceptionAt at h
  rw [ht, Option.any_some, List.any_eq_false] at h
  have hnone := h x hx
  rw [hscope, beq_self_eq_true, Bool.true_and, Bool.not_eq_true] at hnone
  rw [Condition.holds_of_reference_eq_none (hplain x hx hscope) t b none]
  exact hnone

theorem guardOf_eq_none {e : Element} (h : e.hasNextExceptions = false) : Point.guardOf e = none := by
  unfold Point.guardOf
  rw [h, if_neg Bool.false_ne_true]

theorem guardOf_eq_some {e : Element} (h : e.hasNextExceptions = true) : Point.guardOf e = some e := by
  unfold Point.guardOf
  rw [if_pos h]

end Element

namespace Assigned

variable {s : Sentence} {cursor : Nat} {gap : Bound} {guard : Option Element} {before taken : List Taken}

/-- Behind an element that has exceptions on the next token, it is the guard, whether it took tokens or not. -/
theorem exists_guard {front rest : List Taken} {e : Element} {span : Span}
    (h : Assigned s cursor gap guard before (front ++ (e, span) :: rest)) (he : e.hasNextExceptions = true) :
    ∃ gap' before', Assigned s span.stop gap' (some e) before' rest := by
  have hguard : Point.guardOf e = some e := Element.guardOf_eq_some he
  generalize htaken : front ++ (e, span) :: rest = taken at h
  -- The element is the next one, and sets the guard, or it comes later, and the guard up to there does not matter.
  induction h generalizing front with
  | done => exact absurd htaken (by simp)
  | consumed hspan hrest ih =>
    cases front with
    | nil =>
      obtain ⟨hfirst, rfl⟩ := List.cons.inj htaken
      obtain ⟨rfl, rfl⟩ := Prod.mk.inj hfirst
      rw [hguard] at hrest
      exact ⟨_, _, hrest⟩
    | cons first front => exact ih (List.cons.inj htaken).2
  | absent hmin hrest ih =>
    cases front with
    | nil =>
      obtain ⟨hfirst, rfl⟩ := List.cons.inj htaken
      obtain ⟨rfl, rfl⟩ := Prod.mk.inj hfirst
      rw [hguard, Option.some_or] at hrest
      exact ⟨_, _, hrest⟩
    | cons first front => exact ih (List.cons.inj htaken).2

/-- A guard stays on over elements that are left out and have no exceptions on the next token. -/
theorem unguarded_of_absent {g : Element} {absent rest : List Taken} {e : Element} {span : Span}
    (h : Assigned s cursor gap (some g) before (absent ++ (e, span) :: rest))
    (habsent : ∀ t ∈ absent, t.2.isEmpty = true ∧ t.1.hasNextExceptions = false) (hspan : span.isEmpty = false) :
    ∀ j, cursor ≤ j → j ≤ span.start → g.nextExceptionAt s j none = false := by
  induction absent generalizing gap before with
  | nil =>
    cases h with
    | consumed hconsumes _ => exact hconsumes.unguarded g rfl
    | absent => exact absurd hspan (by simp [Span.isEmpty, Span.empty])
  | cons first absent ih =>
    obtain ⟨⟨hempty, hnone⟩, hothers⟩ := List.forall_mem_cons.mp habsent
    cases h with
    | @consumed _ _ _ _ _ taken _ hconsumes _ =>
      -- A span that was consumed is not empty.
      have hlow := hconsumes.low
      have hstop : taken.stop ≤ taken.start := Span.isEmpty_iff.mp hempty
      unfold Span.size at hlow
      omega
    | absent hmin hrest =>
      rw [Element.guardOf_eq_none hnone, Option.none_or] at hrest
      exact ih hrest hothers

end Assigned

namespace Rule

/-- In a match that was found, no token behind an element, up to the first one that a later element took, meets its
exceptions on the next token, if these ask for no reference and the elements between took no token and have no such
exceptions. The element itself may have been left out; then these are the tokens behind the last one taken before it. -/
theorem matchAt_guards_gap {r : Rule} {s : Sentence} {limit : Option Nat} {i steps steps' : Nat} {p : Point}
    (h : r.matchAt s limit i steps = .ok (some p, steps')) {before absent after : List Taken} {e e' : Element}
    {span span' : Span} (htaken : p.taken = before ++ (e, span) :: (absent ++ (e', span') :: after))
    (habsent : ∀ t ∈ absent, t.2.isEmpty = true ∧ t.1.hasNextExceptions = false) (hspan' : span'.isEmpty = false)
    (hplain : e.HasPlainNextExceptions) :
    ∀ x ∈ e.exceptions, x.scope = .next → ∀ j t, span.stop ≤ j → j ≤ span'.start → s.token? j = some t →
      ∀ b, x.condition.holds t b = false := by
  intro x hx hscope j t hstop hstart ht b
  have hmem : p ∈ r.completionsAt s i := List.mem_of_mem_head? (matchAt_eq_ok h).symm
  obtain ⟨taken, hown, -, hassigned, -⟩ := Search.assignment_of_mem_completions r.features s hmem
  obtain rfl : p.taken = taken := hown
  rw [htaken] at hassigned
  have hexceptions : e.hasNextExceptions = true := List.any_eq_true.mpr ⟨x, hx, beq_iff_eq.mpr hscope⟩
  obtain ⟨gap, before', hrest⟩ := hassigned.exists_guard hexceptions
  have hunguarded := hrest.unguarded_of_absent habsent hspan' j hstop hstart
  exact e.holds_eq_false_of_nextExceptionAt hplain hunguarded hx hscope ht b

/-- An element with an exception on the next token, one that may be left out, and one behind a gap. -/
def guardedGap : String :=
  "rule R \x7b pattern \x7b [\"a\", except_next(\"b\"), skip=1] [\"o\", min=0] [\"c\"] \x7d message \"m\"; \x7d"

theorem matchAt_guardedGap :
    ∃ (r : Rule) (s : Sentence) (p : Point) (steps : Nat) (e e' o : Element), r.IsCompiled ∧
      r.matchAt s none 0 0 = .ok (some p, steps) ∧
      p.taken = [(e, ⟨0, 1⟩), (o, .empty 1), (e', ⟨2, 3⟩)] ∧ e.hasNextExceptions = true ∧
      ∀ x ∈ e.exceptions, x.scope = .next → ∀ j t, 1 ≤ j → j ≤ 2 → s.token? j = some t →
        ∀ b, x.condition.holds t b = false := by
  have hrun : ((RuleSet.load guardedGap).toOption.bind fun set => set.grammar.head?.bind fun r =>
      (r.matchAt (Sentence.ofTokens [.new "a" [], .new "x" [], .new "c" []]) none 0 0).toOption.bind fun outcome =>
        outcome.1.map fun p => p.taken.map fun t => (t.2, t.1.hasNextExceptions, t.1.hasReferences)) =
      some [(⟨0, 1⟩, true, false), (.empty 1, false, false), (⟨2, 3⟩, false, false)] := by decide +kernel
  obtain ⟨set, hload, hrun⟩ := Option.bind_eq_some_iff.mp hrun
  obtain ⟨r, hhead, hrun⟩ := Option.bind_eq_some_iff.mp hrun
  obtain ⟨⟨found, steps⟩, hfound, hrun⟩ := Option.bind_eq_some_iff.mp hrun
  obtain ⟨p, hp, htakes⟩ := Option.map_eq_some_iff.mp hrun
  obtain rfl : found = some p := hp
  rw [toOption_eq_some] at hload hfound
  have hr : r.IsCompiled := (RuleSet.isCompiled_of_load hload).1 r (List.mem_of_head? hhead)
  obtain ⟨⟨e, span⟩, rest, htaken, he, hrest⟩ := List.map_eq_cons_iff.mp htakes
  obtain ⟨⟨o, span₁⟩, rest₁, rfl, ho, hrest⟩ := List.map_eq_cons_iff.mp hrest
  obtain ⟨⟨e', span'⟩, rest₂, rfl, he', hrest⟩ := List.map_eq_cons_iff.mp hrest
  obtain rfl := List.map_eq_nil_iff.mp hrest
  simp only [Prod.mk.injEq] at he ho he'
  obtain ⟨rfl, hexceptions, hreferences⟩ := he
  obtain ⟨rfl, hnone, -⟩ := ho
  obtain ⟨rfl, -, -⟩ := he'
  have hplain : e.HasPlainNextExceptions := by
    intro x hx _
    exact Element.reference_eq_none hreferences (List.mem_append_right _ (List.mem_map_of_mem hx))
  have habsent : ∀ t ∈ [(o, Span.empty 1)], t.2.isEmpty = true ∧ t.1.hasNextExceptions = false := by
    rw [List.forall_mem_singleton]
    exact ⟨rfl, hnone⟩
  have hsplit : p.taken = [] ++ (e, ⟨0, 1⟩) :: ([(o, .empty 1)] ++ (e', ⟨2, 3⟩) :: []) := htaken
  exact ⟨r, _, p, steps, e, e', o, hr, hfound, htaken, hexceptions, matchAt_guards_gap hfound hsplit habsent rfl hplain⟩

/-- The same rule, where the element that may be left out has an exception on the next token too. -/
def replacedGuard : String :=
  "rule R \x7b pattern \x7b [\"a\", except_next(\"b\"), skip=1] [\"o\", min=0, except_next(\"q\")] [\"c\"] \x7d " ++
    "message \"m\"; \x7d"

/-- The gap holds a token that the exception of the first element is about. -/
theorem matchAt_replacedGuard :
    ∃ (r : Rule) (s : Sentence) (p : Point) (steps : Nat) (e : Element), r.IsCompiled ∧
      r.matchAt s none 0 0 = .ok (some p, steps) ∧ p.spans = [⟨0, 1⟩, .empty 1, ⟨2, 3⟩] ∧
      p.taken.head? = some (e, ⟨0, 1⟩) ∧ e.hasReferences = false ∧ e.nextExceptionAt s 1 none = true := by
  let s : Sentence := .ofTokens [.new "a" [], .new "b" [], .new "c" []]
  have hrun : ((RuleSet.load replacedGuard).toOption.bind fun set => set.grammar.head?.bind fun r =>
      (r.matchAt s none 0 0).toOption.bind fun outcome => outcome.1.bind fun p => p.taken.head?.map fun t =>
        (p.spans, t.2, t.1.hasReferences, t.1.nextExceptionAt s 1 none)) =
      some ([⟨0, 1⟩, .empty 1, ⟨2, 3⟩], ⟨0, 1⟩, false, true) := by decide +kernel
  obtain ⟨set, hload, hrun⟩ := Option.bind_eq_some_iff.mp hrun
  obtain ⟨r, hhead, hrun⟩ := Option.bind_eq_some_iff.mp hrun
  obtain ⟨⟨found, steps⟩, hfound, hrun⟩ := Option.bind_eq_some_iff.mp hrun
  obtain ⟨p, hp, hrun⟩ := Option.bind_eq_some_iff.mp hrun
  obtain ⟨⟨e, span⟩, htaken, hvalues⟩ := Option.map_eq_some_iff.mp hrun
  obtain rfl : found = some p := hp
  rw [toOption_eq_some] at hload hfound
  have hr : r.IsCompiled := (RuleSet.isCompiled_of_load hload).1 r (List.mem_of_head? hhead)
  simp only [Prod.mk.injEq] at hvalues
  obtain ⟨hspans, rfl, hreferences, hexception⟩ := hvalues
  exact ⟨r, s, p, steps, e, hr, hfound, hspans, htaken, hreferences, hexception⟩

end Rule

end GrammarCheck
