import GrammarCheck.Search.Point

/-! The search for a match. Points are visited in order of preference, each one before those that follow from it; the
number of visits may be limited. -/

namespace GrammarCheck

inductive MatchError where
  | stepLimit (limit : Nat)
  | spanMismatch (action : ActionKind) (expected found : Nat)
  deriving DecidableEq, Inhabited

def MatchError.message : MatchError → String
  | stepLimit limit => s!"Search exceeded {limit} steps"
  | spanMismatch action expected found =>
    action.name ++ s!" expects {expected} tokens but the match covers {found}"

/-- A computation that counts its steps. -/
abbrev Counted := StateT Nat (Except MatchError)

namespace Search

variable {α β : Type}

def tick (limit : Option Nat) : Counted Unit := fun steps =>
  match limit with
  | none => .ok ((), steps + 1)
  | some n => if n < steps + 1 then .error (.stepLimit n) else .ok ((), steps + 1)

/-- The first result there is. -/
def firstSome (f : α → Counted (Option β)) : List α → Counted (Option β)
  | [] => pure none
  | a :: rest => do
    match ← f a with
    | some b => pure (some b)
    | none => firstSome f rest

/-- The first way, in order of preference, to match elements from a point on. -/
def explore (table : FeatureTable) (s : Sentence) (limit : Option Nat) : List Element → Point → Counted (Option Point)
  | [], p => do
    tick limit
    pure (if p.isNonempty then some p else none)
  | e :: rest, p => do
    tick limit
    firstSome (explore table s limit rest) (p.successors table s e)

end Search

/-- The preferred match of a rule that starts at a token. -/
def Rule.matchAt (r : Rule) (s : Sentence) (limit : Option Nat) (i : Nat) : Counted (Option Point) :=
  Search.explore r.features s limit r.elements (.start i)

end GrammarCheck
