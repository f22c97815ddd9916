/-! Half-open intervals of indices. -/

namespace GrammarCheck

structure Span where
  start : Nat
  stop : Nat
  deriving DecidableEq, Inhabited

namespace Span

def empty (n : Nat) : Span := ⟨n, n⟩

def isEmpty (s : Span) : Bool := s.stop ≤ s.start

def size (s : Span) : Nat := s.stop - s.start

def indices (s : Span) : List Nat := List.range' s.start s.size

def contains (s : Span) (i : Nat) : Bool := s.start ≤ i && i < s.stop

def union (a b : Span) : Span := ⟨min a.start b.start, max a.stop b.stop⟩

def render (s : Span) : String := s!"{s.start}..{s.stop}"

theorem mem_indices {s : Span} {i : Nat} : i ∈ s.indices ↔ s.start ≤ i ∧ i < s.stop := by
  simp only [indices, size, List.mem_range'_1]
  omega

theorem contains_iff {s : Span} {i : Nat} : s.contains i = true ↔ s.start ≤ i ∧ i < s.stop := by
  simp [contains]

theorem isEmpty_iff {s : Span} : s.isEmpty = true ↔ s.stop ≤ s.start := by
  simp [isEmpty]

end Span

end GrammarCheck
