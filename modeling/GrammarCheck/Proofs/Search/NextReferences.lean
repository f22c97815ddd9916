import GrammarCheck.Proofs.Rule.Grouping
import GrammarCheck.Proofs.Search.Likeness

/-! References in exceptions on the next token. A gap is watched without bindings, so such a reference is never looked up:
its position does not matter, and an exception that asks for the text of an earlier position forbids nothing. On an element
that may be left out, it can still lift what the guard before that element forbids. -/

namespace GrammarCheck

open Success

/-- An exception on the next token that asks for the text of an earlier position. -/
def TokenException.asksForReference (x : TokenException) : Bool :=
  x.scope == .next && x.condition.reference.isSome && !x.condition.negate

def TokenException.renumberNext (f : Nat → Nat) (x : TokenException) : TokenException :=
  if x.scope = .next then { x with condition := { x.condition with reference := x.condition.reference.map f } } else x

namespace Element

/-- The element without its exceptions on the next token that ask for the text of an earlier position. An element that
may be left out keeps them: although they forbid nothing, with them it takes the place of the guard before it. -/
def dropNextReferences (e : Element) : Element :=
  if e.min = 0 then e else { e with exceptions := e.exceptions.filter (!·.asksForReference) }

/-- The element with other positions in its exceptions on the next token. -/
def renumberNextReferences (f : Nat → Nat) (e : Element) : Element :=
  { e with exceptions := e.exceptions.map (·.renumberNext f) }

end Element

/-- Without bindings a reference is not resolved. -/
theorem Condition.holds_none_of_reference {c : Condition} (h : c.reference.isSome = true) (t : Token) :
    c.holds t none = c.negate := by
  obtain ⟨position, hposition⟩ := Option.isSome_iff_exists.mp h
  have hunresolved : c.referenceHolds t none = false := by
    unfold referenceHolds
    rw [hposition]
    rfl
  have hfails : c.evaluate t none = false := by
    unfold evaluate
    rw [hunresolved, Bool.and_false, Bool.false_and, Bool.false_and]
  rw [holds, hfails]
  exact Bool.false_bne c.negate

namespace TokenException

variable {x : TokenException}

theorem scope_renumberNext (f : Nat → Nat) (x : TokenException) : (x.renumberNext f).scope = x.scope := by
  unfold renumberNext
  split <;> rfl

theorem vetoedBy_renumberNext (f : Nat → Nat) (x : TokenException) (s : Sentence) (i : Nat) (b : Option Bindings) :
    Element.vetoedBy s i b (x.renumberNext f) = Element.vetoedBy s i b x := by
  unfold renumberNext
  split
  · rename_i hscope
    unfold Element.vetoedBy
    dsimp only
    rw [hscope]
  · rfl

theorem holds_renumberNext (f : Nat → Nat) (x : TokenException) (t : Token) :
    (x.renumberNext f).condition.holds t none = x.condition.holds t none := by
  unfold renumberNext
  split
  · cases hreference : x.condition.reference with
    | none =>
      dsimp only [Option.map_none]
      rw [← hreference]
    | some position =>
      have hown : x.condition.reference.isSome = true := by rw [hreference]; rfl
      rw [Condition.holds_none_of_reference hown, Condition.holds_none_of_reference (by rfl)]
  · rfl

theorem vetoedBy_of_asksForReference (h : x.asksForReference = true) (s : Sentence) (i : Nat) (b : Option Bindings) :
    Element.vetoedBy s i b x = false := by
  rw [asksForReference, Bool.and_eq_true, Bool.and_eq_true, beq_iff_eq] at h
  unfold Element.vetoedBy
  rw [h.1.1]

theorem holds_of_asksForReference (h : x.asksForReference = true) (t : Token) : x.condition.holds t none = false := by
  rw [asksForReference, Bool.and_eq_true, Bool.and_eq_true, Bool.not_eq_true'] at h
  rw [Condition.holds_none_of_reference h.1.2, h.2]

end TokenException

namespace Element

theorem actsLike_renumberNextReferences (f : Nat → Nat) (e : Element) : e.ActsLike (e.renumberNextReferences f) where
  min := rfl
  max := rfl
  skip := rfl
  agreement := rfl
  position := rfl
  matchesAt s i b := by
    unfold Element.matchesAt renumberNextReferences
    simp only [List.any_map, Function.comp_def, TokenException.vetoedBy_renumberNext]
  nextExceptionAt s i := by
    unfold Element.nextExceptionAt renumberNextReferences
    simp only [List.any_map, Function.comp_def, TokenException.scope_renumberNext, TokenException.holds_renumberNext]
  guards _ := by
    unfold hasNextExceptions renumberNextReferences
    simp only [List.any_map, Function.comp_def, TokenException.scope_renumberNext]

theorem any_filter_of_forall_eq_false {p q : TokenException → Bool} (h : ∀ x, q x = true → p x = false)
    (exceptions : List TokenException) : (exceptions.filter (!q ·)).any p = exceptions.any p := by
  rw [List.any_filter]
  refine congrArg exceptions.any (funext fun x => ?_)
  cases hq : q x with
  | true => rw [h x hq, Bool.and_false]
  | false => rw [Bool.not_false, Bool.true_and]

theorem matchesAt_without_asksForReference (e : Element) (s : Sentence) (i : Nat) (b : Option Bindings) :
    matchesAt { e with exceptions := e.exceptions.filter (!·.asksForReference) } s i b = e.matchesAt s i b := by
  unfold matchesAt
  dsimp only
  rw [any_filter_of_forall_eq_false fun x hx => TokenException.vetoedBy_of_asksForReference hx s i b]

/-- Without such exceptions an element forbids the same tokens behind it, also one that may be left out. -/
theorem nextExceptionAt_without_asksForReference (e : Element) (s : Sentence) (i : Nat) :
    nextExceptionAt { e with exceptions := e.exceptions.filter (!·.asksForReference) } s i none =
      e.nextExceptionAt s i none := by
  unfold nextExceptionAt
  refine congrArg (s.token? i).any (funext fun t => any_filter_of_forall_eq_false (fun x hx => ?_) _)
  rw [TokenException.holds_of_asksForReference hx, Bool.and_false]

theorem actsLike_dropNextReferences (e : Element) : e.ActsLike e.dropNextReferences := by
  unfold dropNextReferences
  split
  case isTrue => exact .refl e
  case isFalse hmin =>
    exact {
      min := rfl
      max := rfl
      skip := rfl
      agreement := rfl
      position := rfl
      matchesAt := fun s i b => e.matchesAt_without_asksForReference s i (some b)
      nextExceptionAt := e.nextExceptionAt_without_asksForReference
      guards := fun h => absurd h hmin }

end Element

namespace Rule

def dropNextReferences (r : Rule) : Rule := { r with elements := r.elements.map (·.dropNextReferences) }

def renumberNextReferences (f : Nat → Nat) (r : Rule) : Rule :=
  { r with elements := r.elements.map (·.renumberNextReferences f) }

/-- The matches do not depend on the position that an exception on the next token refers to. Where the exception asks for
the text of that position and its element cannot be left out, they are those without the exception. -/
theorem findMatches_nextReferences (r : Rule) (s : Sentence) (limit : Option Nat) :
    r.dropNextReferences.findMatches s limit = r.findMatches s limit ∧
      ∀ f, (r.renumberNextReferences f).findMatches s limit = r.findMatches s limit := by
  have hmapped {g : Element → Element} (hg : ∀ e : Element, e.ActsLike (g e)) :
      List.Forall₂ Element.ActsLike r.elements (r.elements.map g) := by
    rw [List.forall₂_map_right_iff, List.forall₂_same]
    exact fun e _ => hg e
  exact ⟨findMatches_actsLike (hmapped Element.actsLike_dropNextReferences) s limit,
    fun f => findMatches_actsLike (hmapped (Element.actsLike_renumberNextReferences f)) s limit⟩

/-- On an element that may be left out, the exception forbids nothing either, but it makes the element take the place of the
first one as the guard, and the second token is no longer forbidden. -/
example :
    let source := "rule R \x7b pattern \x7b [\"a\", except_next(\"b\"), skip=1] " ++
      "[\"o\", min=0, except_next(ref=1)] [\"c\"] \x7d message \"m\"; \x7d"
    let s : Sentence := .ofTokens [.new "a" [], .new "b" [], .new "c" []]
    ((RuleSet.load source).toOption.bind fun set => set.grammar.head?.map fun r =>
      let without := r.elements.map fun e => { e with exceptions := e.exceptions.filter (!·.asksForReference) }
      [r, { r with elements := without }].map fun r => (r.findMatches s none).toOption.map (·.length)) =
      some [some 1, some 0] := by decide +kernel

/-- An element behind which the text of the first position must not come up again. -/
def repeatedText : String :=
  "rule R \x7b pattern \x7b [\"a\"] [\"b\", except_next(ref=1), skip=1] [\"c\"] \x7d message \"m\"; \x7d"

/-- The gap behind the element holds that text. -/
theorem findMatches_repeatedText :
    ∃ (r : Rule) (s : Sentence) (m : Match) (e : Element) (x : TokenException), r.IsCompiled ∧
      r.findMatches s none = .ok [m] ∧ m.positions = [⟨0, 1⟩, ⟨1, 2⟩, ⟨3, 4⟩] ∧
      r.elements[1]? = some e ∧ e.exceptions = [x] ∧ x.scope = .next ∧ x.condition == { reference := some 1 } ∧
      (s.token? 0).map (·.text) = some "a" ∧ (s.token? 2).map (·.text) = some "a" := by
  let s : Sentence := .ofTokens [.new "a" [], .new "b" [], .new "a" [], .new "c" []]
  have hrun : ((RuleSet.load repeatedText).toOption.bind fun set => set.grammar.head?.bind fun r =>
      (r.findMatches s none).toOption.bind fun ms => r.elements[1]?.map fun e =>
        (ms.map (·.positions), e.exceptions.map fun x => (x.scope, x.condition == { reference := some 1 }))) =
      some ([[⟨0, 1⟩, ⟨1, 2⟩, ⟨3, 4⟩]], [(.next, true)]) := by decide +kernel
  obtain ⟨set, hload, hrun⟩ := Option.bind_eq_some_iff.mp hrun
  obtain ⟨r, hhead, hrun⟩ := Option.bind_eq_some_iff.mp hrun
  obtain ⟨ms, hms, hrun⟩ := Option.bind_eq_some_iff.mp hrun
  obtain ⟨e, he, hvalues⟩ := Option.map_eq_some_iff.mp hrun
  rw [toOption_eq_some] at hload hms
  have hr : r.IsCompiled := (RuleSet.isCompiled_of_load hload).1 r (List.mem_of_head? hhead)
  obtain ⟨hpositions, hexceptions⟩ := Prod.mk.inj hvalues
  obtain ⟨m, rest, rfl, hm, hrest⟩ := List.map_eq_cons_iff.mp hpositions
  obtain rfl := List.map_eq_nil_iff.mp hrest
  obtain ⟨x, others, hx, hxvalues, hothers⟩ := List.map_eq_cons_iff.mp hexceptions
  obtain rfl := List.map_eq_nil_iff.mp hothers
  obtain ⟨hscope, hcondition⟩ := Prod.mk.inj hxvalues
  exact ⟨r, s, m, e, x, hr, hms, hm, he, hx, hscope, hcondition, rfl, rfl⟩

end Rule

end GrammarCheck
