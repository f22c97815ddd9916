import GrammarCheck.Text.Split

/-! Sets of code points, held as inclusive ranges in ascending order that neither overlap nor touch, and the
compact tables such sets are read from. -/

namespace GrammarCheck.Unicode

structure RangeSet where
  ranges : List (Nat × Nat)
  deriving DecidableEq, Inhabited

def maxCodePoint : Nat := 0x10FFFF

namespace RangeSet

def empty : RangeSet := ⟨[]⟩

def all : RangeSet := ⟨[(0, maxCodePoint)]⟩

def single (n : Nat) : RangeSet := ⟨[(n, n)]⟩

def interval (low high : Nat) : RangeSet := ⟨[(low, high)]⟩

/-- Ranges ascend, so the search ends at the first one that starts beyond the code point. -/
def search (n : Nat) : List (Nat × Nat) → Bool
  | [] => false
  | (low, high) :: rest => if n < low then false else if n ≤ high then true else search n rest

def contains (s : RangeSet) (n : Nat) : Bool := search n s.ranges

def hasChar (s : RangeSet) (c : Char) : Bool := s.contains c.toNat

/-- Extends a range over the ranges that overlap or touch it; these ascend by their lower ends. -/
def absorb (r : Nat × Nat) : List (Nat × Nat) → List (Nat × Nat)
  | [] => [r]
  | next :: rest =>
    if next.1 ≤ r.2 + 1 then absorb (r.1, max r.2 next.2) rest else r :: absorb next rest

def ofRanges (ranges : List (Nat × Nat)) : RangeSet :=
  match ranges.mergeSort fun a b => a.1 ≤ b.1 with
  | [] => empty
  | first :: rest => ⟨absorb first rest⟩

def ofCodePoints (codes : List Nat) : RangeSet := ofRanges (codes.map fun n => (n, n))

def union (a b : RangeSet) : RangeSet := ofRanges (a.ranges ++ b.ranges)

def unions (sets : List RangeSet) : RangeSet := ofRanges (sets.flatMap (·.ranges))

def gaps (start : Nat) : List (Nat × Nat) → List (Nat × Nat)
  | [] => if start ≤ maxCodePoint then [(start, maxCodePoint)] else []
  | (low, high) :: rest => if start < low then (start, low - 1) :: gaps (high + 1) rest else gaps (high + 1) rest

def complement (s : RangeSet) : RangeSet := ⟨gaps 0 s.ranges⟩

def inter (a b : RangeSet) : RangeSet := (a.complement.union b.complement).complement

def diff (a b : RangeSet) : RangeSet := (a.complement.union b).complement

def symmDiff (a b : RangeSet) : RangeSet := (a.diff b).union (b.diff a)

def isAscii (s : RangeSet) : Bool := s.ranges.all (·.2 < 128)

end RangeSet

/-! A table lists items in hexadecimal, with blanks and line ends between them: `41` for one code point, `41-5A` for a
range, and `100-12E/2` for every second code point of a range. -/

namespace Table

def hexDigit (c : Char) : Nat :=
  if c.isDigit then c.toNat - 48 else if c.isUpper then c.toNat - 55 else c.toNat - 87

def hexNumber (digits : List Char) : Nat := digits.foldl (fun n c => 16 * n + hexDigit c) 0

/-- First code point, last one and step of an item. -/
def bounds (item : List Char) : Nat × Nat × Nat :=
  match Text.splitAtChar '/' item with
  | [span] => ends span 1
  | span :: step :: _ => ends span (hexNumber step)
  | [] => (0, 0, 1)
where
  ends (span : List Char) (step : Nat) : Nat × Nat × Nat :=
    match Text.splitAtChar '-' span with
    | low :: high :: _ => (hexNumber low, hexNumber high, step)
    | [low] => (hexNumber low, hexNumber low, step)
    | [] => (0, 0, step)

def items (table : String) : List (List Char) :=
  ((Text.splitAtChar '\n' table.toList).flatMap (Text.splitAtChar ' ')).filter (!·.isEmpty)

def itemRanges (item : List Char) : List (Nat × Nat) :=
  let (low, high, step) := bounds item
  if step ≤ 1 then [(low, high)]
  else (List.range ((high - low) / step + 1)).map fun i => (low + i * step, low + i * step)

end Table

def RangeSet.ofTable (table : String) : RangeSet := ⟨(Table.items table).flatMap Table.itemRanges⟩

end GrammarCheck.Unicode
