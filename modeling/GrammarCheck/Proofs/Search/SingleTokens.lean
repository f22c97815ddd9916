import GrammarCheck.Proofs.Search.Completions
import GrammarCheck.Proofs.Search.Successors

/-! Rules whose elements take one token each. There is nothing to choose: the elements match token after token, so a match
starts at a token exactly if each element matches the token that is as far behind. -/

namespace GrammarCheck

/-- The element takes one token, with no other one passed over behind it. -/
structure Element.IsSingle (e : Element) : Prop where
  min : e.min = 1
  max : e.max = .upTo 1
  skip : e.skip = .upTo 0
  agreement : e.agreement = none
  unguarded : e.hasNextExceptions = false
  unreferring : e.hasReferences = false

namespace Element

/-- The element of a condition on one token, without exceptions. -/
def single (condition : Condition) (position : Nat) : Element where
  condition := condition
  others := []
  exceptions := []
  min := 1
  max := .upTo 1
  skip := .upTo 0
  agreement := none
  position := position

theorem isSingle_single {c : Condition} (hc : c.reference = none) (position : Nat) : (single c position).IsSingle := by
  have hreferences : (single c position).references = [] := by simp [references, single, hc]
  refine ⟨rfl, rfl, rfl, rfl, rfl, ?_⟩
  rw [hasReferences, hreferences]
  rfl

theorem matchesAt_single (c : Condition) (position : Nat) (s : Sentence) (i : Nat) :
    (single c position).matchesAt s i none = (s.token? i).any (c.holds · none) := by
  unfold matchesAt
  cases s.token? i with
  | none => rfl
  | some t =>
    show (c.holds t none && true && true) = c.holds t none
    rw [Bool.and_true, Bool.and_true]

end Element

namespace Point

variable {p : Point} {s : Sentence} {e : Element}

/-- No token may be passed over before the next element, and none is watched. -/
structure IsClose (p : Point) : Prop where
  gap : p.gap = .upTo 0
  guard : p.guard = none

theorem isClose_start (i : Nat) : (start i).IsClose := ⟨rfl, rfl⟩

/-- The point after an element took the next token. -/
def takeNext (p : Point) (e : Element) : Point := p.advance e ⟨p.cursor, p.cursor + 1⟩ (.upTo 0) none

theorem isClose_takeNext (p : Point) (e : Element) : (p.takeNext e).IsClose := ⟨rfl, rfl⟩

theorem starts_of_isClose (hp : p.IsClose) (hcursor : p.cursor < s.size) : p.starts s = [p.cursor] := by
  have hunguarded : (fun i => !p.guard.any (·.nextExceptionAt s i none)) = fun _ => true := by
    funext i
    rw [hp.guard]
    rfl
  have hone : (Span.mk p.cursor (min (p.cursor + 0 + 1) s.size)).indices = [p.cursor] := by
    have hsize : (Span.mk p.cursor (min (p.cursor + 0 + 1) s.size)).size = 1 := by
      simp only [Span.size]
      omega
    rw [Span.indices, hsize]
    rfl
  rw [starts, hunguarded, hp.gap]
  dsimp only
  rw [hone]
  rfl

theorem starts_of_size_le (p : Point) (hcursor : s.size ≤ p.cursor) : p.starts s = [] := by
  refine List.eq_nil_iff_forall_not_mem.mpr fun i hi => ?_
  obtain ⟨hlow, -, hhigh, -⟩ := (p.mem_starts s i).mp hi
  omega

theorem takeFrom_of_isSingle (he : e.IsSingle) (table : FeatureTable) {i : Nat} (hi : i < s.size) :
    p.takeFrom table s e i = if e.matchesAt s i none then [p.advance e ⟨i, i + 1⟩ (.upTo 0) none] else [] := by
  have hbindings : p.bindings? s e = none := if_neg (by rw [he.unreferring]; exact Bool.false_ne_true)
  have hguard : guardOf e = none := if_neg (by rw [he.unguarded]; exact Bool.false_ne_true)
  have hlimit : Bound.clamp (.upTo 1) (s.size - i) = 0 + 1 := by
    simp only [Bound.clamp]
    omega
  rw [takeFrom, he.agreement, hbindings, he.max, hlimit, he.min, he.skip, hguard, runLength]
  cases e.matchesAt s i none with
  | true => rfl
  | false => rfl

theorem successors_of_isSingle (hp : p.IsClose) (he : e.IsSingle) (table : FeatureTable) :
    p.successors table s e = if e.matchesAt s p.cursor none then [p.takeNext e] else [] := by
  have hkept : p.leaveOut e = [] := if_neg (by rw [he.min]; exact Nat.one_ne_zero)
  rw [successors, hkept, List.append_nil]
  rcases Nat.lt_or_ge p.cursor s.size with hlt | hge
  · rw [starts_of_isClose hp hlt, List.flatMap_singleton, takeFrom_of_isSingle he table hlt]
    rfl
  · have htoken : s.token? p.cursor = none := List.getElem?_eq_none hge
    have hmatch : e.matchesAt s p.cursor none = false := by
      unfold Element.matchesAt
      rw [htoken]
    rw [p.starts_of_size_le hge, hmatch]
    rfl

/-- The point after elements took the next tokens in order. -/
def takeEach (p : Point) (elements : List Element) : Point := elements.foldl takeNext p

theorem isNonempty_takeNext (p : Point) (e : Element) : (p.takeNext e).isNonempty = true := by
  have hspan : (Span.mk p.cursor (p.cursor + 1)).isEmpty = false := by simp [Span.isEmpty]
  simp [isNonempty, spans, takeNext, advance, hspan]

theorem isNonempty_takeEach {elements : List Element} (hne : elements ≠ []) (p : Point) :
    (p.takeEach elements).isNonempty = true := by
  obtain ⟨before, last, rfl⟩ := (List.eq_nil_or_concat elements).resolve_left hne
  rw [takeEach, List.concat_eq_append, List.foldl_append]
  exact isNonempty_takeNext _ last

end Point

/-- Each element matches the token that is as far behind a given one as the element is behind the first. -/
def Element.matchInOrder (s : Sentence) : List Element → Nat → Bool
  | [], _ => true
  | e :: rest, i => e.matchesAt s i none && matchInOrder s rest (i + 1)

theorem Search.completions_of_isSingle {elements : List Element} (h : ∀ e ∈ elements, e.IsSingle) (table : FeatureTable)
    (s : Sentence) {p : Point} (hp : p.IsClose) :
    completions table s elements p =
      if Element.matchInOrder s elements p.cursor && (p.takeEach elements).isNonempty then [p.takeEach elements] else [] := by
  induction elements generalizing p with
  | nil => rfl
  | cons e rest ih =>
    obtain ⟨he, hrest⟩ := List.forall_mem_cons.mp h
    have hnext := ih hrest (p.isClose_takeNext e)
    rw [completions, Point.successors_of_isSingle hp he]
    cases hmatch : e.matchesAt s p.cursor none with
    | true =>
      rw [if_pos rfl, List.flatMap_singleton, hnext, Element.matchInOrder, hmatch, Bool.true_and]
      rfl
    | false =>
      rw [Element.matchInOrder, hmatch, Bool.false_and, Bool.false_and]
      rfl

theorem Rule.completionsAt_of_isSingle {r : Rule} (h : ∀ e ∈ r.elements, e.IsSingle) (hne : r.elements ≠ [])
    (s : Sentence) (i : Nat) : r.completionsAt s i =
      if Element.matchInOrder s r.elements i then [(Point.start i).takeEach r.elements] else [] := by
  rw [completionsAt, Search.completions_of_isSingle h r.features s (Point.isClose_start i),
    Point.isNonempty_takeEach hne, Bool.and_true]
  rfl

end GrammarCheck
