import GrammarCheck.Text.Number

/-! Upper bounds of repetitions and gaps. Sums stop at the largest count there is. -/

namespace GrammarCheck

inductive Bound where
  | upTo (n : Nat)
  | unbounded
  deriving DecidableEq, Inhabited

namespace Bound

def admits : Bound → Nat → Bool
  | upTo max, n => n ≤ max
  | unbounded, _ => true

/-- The smaller of the bound and a limit. -/
def clamp : Bound → Nat → Nat
  | upTo max, limit => min max limit
  | unbounded, limit => limit

def add : Bound → Bound → Bound
  | upTo a, upTo b => upTo (min (a + b) Text.maxCount)
  | _, _ => unbounded

theorem admits_clamp (b : Bound) (limit : Nat) : b.admits (b.clamp limit) = true := by
  cases b with
  | upTo max => exact decide_eq_true (Nat.min_le_left max limit)
  | unbounded => rfl

theorem clamp_le (b : Bound) (limit : Nat) : b.clamp limit ≤ limit := by
  cases b with
  | upTo max => exact Nat.min_le_right max limit
  | unbounded => exact Nat.le_refl limit

end Bound

end GrammarCheck
