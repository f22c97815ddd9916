import GrammarCheck.Rule.Expansion
import Mathlib.Data.List.Chain
import Mathlib.Logic.Relation

/-! Phrases inside of one another. The references of a pattern and of the phrases that it comes to make chains; where they
lead to a cycle there are chains of any length. -/

namespace GrammarCheck

/-- A reference to a phrase, and where it stands. -/
structure PhraseReference where
  name : String
  location : Location
  deriving DecidableEq

mutual

/-- The references of an item to phrases, but not those inside of the phrases. -/
def PatternItem.phraseReferences : PatternItem → List PhraseReference
  | .tokens _ => []
  | .phrase name location => [⟨name, location⟩]
  | .marker inner _ => phraseReferences inner
  | .unify _ _ inner _ => phraseReferences inner

def phraseReferences : List PatternItem → List PhraseReference
  | [] => []
  | first :: rest => first.phraseReferences ++ phraseReferences rest

end

namespace RuleContext

variable {context : RuleContext} {pattern : List PatternItem} {chain : List PhraseReference} {r : PhraseReference}

/-- The references in the alternatives of the phrase of a name. -/
def referencesFrom (context : RuleContext) (name : String) : List PhraseReference :=
  match context.phrase? name with
  | none => []
  | some phrase => phrase.alternatives.flatMap phraseReferences

def RefersTo (context : RuleContext) (a b : String) : Prop := ∃ r ∈ context.referencesFrom a, r.name = b

/-- References that stand inside of one another: the first one in a pattern, each other one in the phrase that the one
before it names. -/
structure Nested (context : RuleContext) (pattern : List PatternItem) (chain : List PhraseReference) : Prop where
  outermost : ∀ r, chain.head? = some r → r ∈ phraseReferences pattern
  inside : chain.IsChain fun outer inner => inner ∈ context.referencesFrom outer.name

theorem mem_referencesFrom {name : String} : r ∈ context.referencesFrom name ↔
    ∃ phrase, context.phrase? name = some phrase ∧ ∃ items ∈ phrase.alternatives, r ∈ phraseReferences items := by
  unfold referencesFrom
  cases context.phrase? name <;> simp

theorem Nested.singleton (h : r ∈ phraseReferences pattern) : context.Nested pattern [r] :=
  ⟨fun _ hhead => Option.some_inj.mp hhead ▸ h, .singleton r⟩

theorem Nested.cons {phrase : PhraseDef} {items : List PatternItem} (hr : r ∈ phraseReferences pattern)
    (hphrase : context.phrase? r.name = some phrase) (hitems : items ∈ phrase.alternatives)
    (h : context.Nested items chain) : context.Nested pattern (r :: chain) where
  outermost _ hhead := Option.some_inj.mp hhead ▸ hr
  inside := h.inside.cons fun inner hinner =>
    mem_referencesFrom.mpr ⟨phrase, hphrase, items, hitems, h.outermost inner hinner⟩

/-- Behind its first reference, a chain stands in an alternative of the phrase. -/
theorem Nested.exists_inner {inner : PhraseReference} (h : context.Nested pattern (r :: inner :: chain)) :
    ∃ phrase, context.phrase? r.name = some phrase ∧
      ∃ items ∈ phrase.alternatives, context.Nested items (inner :: chain) := by
  obtain ⟨hfirst, hrest⟩ := List.isChain_cons_cons.mp h.inside
  obtain ⟨phrase, hphrase, items, hitems, hinner⟩ := mem_referencesFrom.mp hfirst
  exact ⟨phrase, hphrase, items, hitems, fun _ hhead => Option.some_inj.mp hhead ▸ hinner, hrest⟩

/-- A phrase that refers to itself has chains of any length. -/
theorem Nested.append_replicate (h : context.Nested pattern chain) (hlast : chain.getLast? = some r)
    (hr : r ∈ context.referencesFrom r.name) (n : Nat) : context.Nested pattern (chain ++ List.replicate n r) where
  outermost outer hhead := by
    have hne : chain ≠ [] := fun hnil => by rw [hnil] at hlast; cases hlast
    rw [List.head?_append_of_ne_nil chain hne] at hhead
    exact h.outermost outer hhead
  inside := by
    refine h.inside.append (List.isChain_replicate_of_rel n hr) fun outer houter inner hinner => ?_
    obtain rfl : r = outer := Option.some_inj.mp (hlast.symm.trans houter)
    obtain rfl := List.eq_of_mem_replicate (List.mem_of_mem_head? hinner)
    exact hr

/-- From the phrase of a name, references lead to a cycle. -/
def LeadsToCycle (context : RuleContext) (name : String) : Prop :=
  ∃ again, Relation.ReflTransGen context.RefersTo name again ∧ Relation.TransGen context.RefersTo again again

theorem LeadsToCycle.exists_reference {name : String} (h : context.LeadsToCycle name) :
    ∃ r ∈ context.referencesFrom name, context.LeadsToCycle r.name := by
  obtain ⟨again, hreaches, hcycle⟩ := h
  rcases hreaches.cases_head with rfl | ⟨_, ⟨r, hr, rfl⟩, hreaches⟩
  · obtain ⟨_, ⟨r, hr, rfl⟩, hback⟩ := Relation.TransGen.head'_iff.mp hcycle
    exact ⟨r, hr, _, hback, hcycle⟩
  · exact ⟨r, hr, again, hreaches, hcycle⟩

/-- References that lead to a cycle have chains of any length. -/
theorem LeadsToCycle.exists_chain (h : context.LeadsToCycle r.name) (n : Nat) :
    ∃ chain : List PhraseReference, chain.length = n ∧
      (r :: chain).IsChain fun outer inner => inner ∈ context.referencesFrom outer.name := by
  induction n generalizing r with
  | zero => exact ⟨[], rfl, .singleton r⟩
  | succ n ih =>
    obtain ⟨inner, hinner, hcycle⟩ := h.exists_reference
    obtain ⟨chain, hlength, hchain⟩ := ih hcycle
    exact ⟨inner :: chain, congrArg (· + 1) hlength, hchain.cons_cons hinner⟩

theorem LeadsToCycle.exists_nested (h : context.LeadsToCycle r.name) (hr : r ∈ phraseReferences pattern) (n : Nat) :
    ∃ chain, context.Nested pattern chain ∧ chain.length = n + 1 := by
  obtain ⟨chain, hlength, hchain⟩ := h.exists_chain n
  exact ⟨r :: chain, ⟨fun _ hhead => Option.some_inj.mp hhead ▸ hr, hchain⟩, congrArg (· + 1) hlength⟩

end RuleContext

end GrammarCheck
