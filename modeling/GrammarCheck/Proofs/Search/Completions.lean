import GrammarCheck.Match
import Mathlib.Data.List.Basic

/-! The search without its counter. It lists all ways to match the elements that are left, the preferred ones first,
and what is found is the first of these. The steps are the points that the search visits on the way to it; these do not
depend on the limit, which can only cut the search short. -/

namespace GrammarCheck

namespace Search

variable {α β γ : Type}

/-- All ways to match elements from a point on, the preferred ones first. -/
def completions (table : FeatureTable) (s : Sentence) : List Element → Point → List Point
  | [], p => if p.isNonempty then [p] else []
  | e :: rest, p => (p.successors table s e).flatMap (completions table s rest)

/-- A computation that gives an answer after some steps unless these are more than are left. -/
def metered (limit : Option Nat) (answer : α) (cost : Nat) : Counted α := fun steps =>
  match limit with
  | none => .ok (answer, steps + cost)
  | some n => if cost = 0 ∨ steps + cost ≤ n then .ok (answer, steps + cost) else .error (.stepLimit n)

theorem metered_none (a : α) (cost steps : Nat) : metered none a cost steps = .ok (a, steps + cost) := rfl

theorem metered_of_le {a : α} {cost steps n : Nat} (h : cost = 0 ∨ steps + cost ≤ n) :
    metered (some n) a cost steps = .ok (a, steps + cost) := if_pos h

theorem metered_of_lt {a : α} {cost steps n : Nat} (h : ¬(cost = 0 ∨ steps + cost ≤ n)) :
    metered (some n) a cost steps = .error (.stepLimit n) := if_neg h

theorem metered_cases (limit : Option Nat) (answer : α) (cost steps : Nat) :
    metered limit answer cost steps = .ok (answer, steps + cost) ∨
      ∃ n, limit = some n ∧ metered limit answer cost steps = .error (.stepLimit n) := by
  cases limit with
  | none => exact Or.inl rfl
  | some n =>
    by_cases h : cost = 0 ∨ steps + cost ≤ n
    · exact Or.inl (metered_of_le h)
    · exact Or.inr ⟨n, rfl, metered_of_lt h⟩

theorem pure_eq_metered (limit : Option Nat) (a : α) : (pure a : Counted α) = metered limit a 0 := by
  funext steps
  cases limit with
  | none => rfl
  | some n => exact (metered_of_le (Or.inl rfl)).symm

theorem tick_eq_metered (limit : Option Nat) : tick limit = metered limit () 1 := by
  funext steps
  cases limit with
  | none => rfl
  | some n =>
    have htick : tick (some n) steps =
        if n < steps + 1 then .error (.stepLimit n) else .ok ((), steps + 1) := rfl
    by_cases h : n < steps + 1
    · rw [htick, if_pos h, metered_of_lt (by omega)]
    · rw [htick, if_neg h, metered_of_le (by omega)]

theorem metered_bind {limit : Option Nat} {a : α} {b : β} {first second : Nat} {f : α → Counted β}
    (h : f a = metered limit b second) : metered limit a first >>= f = metered limit b (first + second) := by
  funext steps
  have hbind : (metered limit a first >>= f) steps =
      (metered limit a first steps).bind fun p => f p.1 p.2 := rfl
  rw [hbind]
  cases limit with
  | none =>
    rw [metered_none, Except.bind, h, metered_none, metered_none, Nat.add_assoc]
  | some n =>
    by_cases hfirst : first = 0 ∨ steps + first ≤ n
    · rw [metered_of_le hfirst, Except.bind, h]
      by_cases hsecond : second = 0 ∨ steps + first + second ≤ n
      · rw [metered_of_le hsecond, metered_of_le (by omega), Nat.add_assoc]
      · rw [metered_of_lt hsecond, metered_of_lt (by omega)]
    · rw [metered_of_lt hfirst, Except.bind, metered_of_lt (by omega)]

/-- The items up to the first one for which something is found. -/
def untilFound (found : α → Bool) : List α → List α
  | [] => []
  | a :: rest => if found a then [a] else a :: untilFound found rest

/-- The points that the search visits from a point on, in order: the point itself, and what it visits from each one that
follows, up to the first that can be completed. -/
def visited (table : FeatureTable) (s : Sentence) : List Element → Point → List Point
  | [], p => [p]
  | e :: rest, p =>
    p :: (untilFound (fun q => !(completions table s rest q).isEmpty) (p.successors table s e)).flatMap
      (visited table s rest)

/-- The first result of computations, each of which finds the first item of a list, is the first item of all, and it
takes the steps of the computations up to the one that finds it. -/
theorem firstSome_metered {f : Option Nat → α → Counted (Option β)} {g : α → List β} {steps : α → List γ}
    (h : ∀ a limit, f limit a = metered limit (g a).head? (steps a).length) (xs : List α) (limit : Option Nat) :
    firstSome (f limit) xs =
      metered limit (xs.flatMap g).head? ((untilFound (fun a => !(g a).isEmpty) xs).flatMap steps).length := by
  induction xs with
  | nil => exact pure_eq_metered limit none
  | cons a rest ih =>
    cases hlist : g a with
    | nil =>
      have huntil : untilFound (fun a => !(g a).isEmpty) (a :: rest) =
          a :: untilFound (fun a => !(g a).isEmpty) rest := by simp [untilFound, hlist]
      rw [huntil, List.flatMap_cons, List.flatMap_cons, hlist, List.nil_append, List.length_append, firstSome, h, hlist]
      exact metered_bind ih
    | cons b bs =>
      have huntil : untilFound (fun a => !(g a).isEmpty) (a :: rest) = [a] := by simp [untilFound, hlist]
      rw [huntil, List.flatMap_singleton, List.flatMap_cons, hlist, List.cons_append, List.head?_cons, firstSome, h,
        hlist, ← Nat.add_zero (steps a).length]
      exact metered_bind (pure_eq_metered limit (some b))

theorem explore_metered (table : FeatureTable) (s : Sentence) (elements : List Element) (p : Point)
    (limit : Option Nat) : explore table s limit elements p =
      metered limit (completions table s elements p).head? (visited table s elements p).length := by
  induction elements generalizing p limit with
  | nil =>
    rw [explore, tick_eq_metered, visited, List.length_singleton, ← Nat.add_zero 1]
    apply metered_bind
    rw [pure_eq_metered limit, completions]
    split <;> rfl
  | cons e rest ih =>
    have hnext := firstSome_metered (f := fun limit => explore table s limit rest) ih (p.successors table s e) limit
    rw [explore, tick_eq_metered, visited, List.length_cons, Nat.add_comm]
    exact metered_bind hnext

theorem visited_eq_cons (table : FeatureTable) (s : Sentence) (elements : List Element) (p : Point) :
    ∃ later, visited table s elements p = p :: later := by
  cases elements with
  | nil => exact ⟨[], rfl⟩
  | cons e rest => exact ⟨_, rfl⟩

end Search

namespace Rule

/-- All ways to match a rule from a token on, the preferred ones first. -/
def completionsAt (r : Rule) (s : Sentence) (i : Nat) : List Point :=
  Search.completions r.features s r.elements (.start i)

/-- The points that the search at a token visits. -/
def visitedAt (r : Rule) (s : Sentence) (i : Nat) : List Point :=
  Search.visited r.features s r.elements (.start i)

theorem matchAt_eq_metered (r : Rule) (s : Sentence) (i : Nat) (limit : Option Nat) :
    r.matchAt s limit i = Search.metered limit (r.completionsAt s i).head? (r.visitedAt s i).length :=
  Search.explore_metered r.features s r.elements (.start i) limit

theorem matchAt_metered (r : Rule) (s : Sentence) (i : Nat) :
    ∃ cost, ∀ limit, r.matchAt s limit i = Search.metered limit (r.completionsAt s i).head? (1 + cost) := by
  obtain ⟨later, hlater⟩ := Search.visited_eq_cons r.features s r.elements (.start i)
  refine ⟨later.length, fun limit => ?_⟩
  rw [matchAt_eq_metered, visitedAt, hlater, List.length_cons, Nat.add_comm]

end Rule

end GrammarCheck
