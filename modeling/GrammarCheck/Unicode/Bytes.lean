import GrammarCheck.Unicode.RangeSet

/-! Characters as bytes. A range of code points is cut into runs such that the bytes at each place of a run are a range
of their own, so that a run is a list of byte ranges. -/

namespace GrammarCheck.Unicode

/-- The bytes of a code point, one to four. -/
def bytesOf (n : Nat) : List Nat :=
  if n < 0x80 then [n]
  else if n < 0x800 then [0xC0 + n / 64, 0x80 + n % 64]
  else if n < 0x10000 then [0xE0 + n / 4096, 0x80 + n / 64 % 64, 0x80 + n % 64]
  else [0xF0 + n / 262144, 0x80 + n / 4096 % 64, 0x80 + n / 64 % 64, 0x80 + n % 64]

def textBytes (text : List Char) : List Nat := text.flatMap fun c => bytesOf c.toNat

/-- Where a range has to be cut to start or to end with whole blocks of a size; a range within a block stays whole. -/
def blockCut? (low high size : Nat) : Option Nat :=
  if low / size = high / size then none
  else if low % size ≠ 0 then some ((low / size + 1) * size)
  else if (high + 1) % size ≠ 0 then some (high / size * size)
  else none

/-- The place at which a range is cut first: where the number of bytes changes, else at the edge of a block. -/
def byteCut? (low high : Nat) : Option Nat :=
  match [0x80, 0x800, 0x10000].find? fun cut => low < cut && cut ≤ high with
  | some cut => some cut
  | none => if high < 0x80 then none else [64, 4096, 262144].findSome? (blockCut? low high)

/-- The runs of a range, in order. -/
def byteRuns (low high : Nat) : List (List (Nat × Nat)) :=
  match byteCut? low high with
  | none => [(bytesOf low).zip (bytesOf high)]
  | some cut =>
    if _h : low < cut ∧ cut ≤ high then byteRuns low (cut - 1) ++ byteRuns cut high
    else [(bytesOf low).zip (bytesOf high)]
termination_by high - low
decreasing_by all_goals omega

namespace RangeSet

/-- The set without surrogates, which are no characters. -/
def scalars (s : RangeSet) : RangeSet :=
  ⟨s.ranges.flatMap fun (low, high) =>
    if high < 0xD800 ∨ 0xDFFF < low then [(low, high)]
    else (if low < 0xD800 then [(low, 0xD7FF)] else []) ++ (if 0xDFFF < high then [(0xE000, high)] else [])⟩

/-- The character of a set that has just one. -/
def onlyChar? (s : RangeSet) : Option Char :=
  match s.scalars.ranges with
  | [(low, high)] => if low = high then some (Char.ofNat low) else none
  | _ => none

def byteRuns (s : RangeSet) : List (List (Nat × Nat)) :=
  s.scalars.ranges.flatMap fun (low, high) => Unicode.byteRuns low high

end RangeSet

end GrammarCheck.Unicode
