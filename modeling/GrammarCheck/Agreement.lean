import GrammarCheck.Condition

/-! Agreement of tokens in features such as number and gender. A feature has types, each told by a condition. The types
a token can have are a set of bits, and tokens agree if for each feature some type is left to all of them. -/

namespace GrammarCheck

structure Feature where
  name : String
  types : List (String × Condition)
  deriving Inhabited, BEq

namespace Feature

def maxTypes : Nat := 64

/-- The bits of the types that a token can have. -/
def maskFrom (token : Token) (i : Nat) : List (String × Condition) → Nat
  | [] => 0
  | (_, condition) :: rest =>
    (if condition.holds token none then 1 <<< i else 0) ||| maskFrom token (i + 1) rest

def mask (f : Feature) (token : Token) : Nat := maskFrom token 0 f.types

end Feature

/-- The features that the rules of a file refer to by their place. -/
structure FeatureTable where
  features : List Feature
  deriving Inhabited, BEq

namespace FeatureTable

def index? (t : FeatureTable) (name : String) : Option Nat := t.features.findIdx? (·.name == name)

def isEmpty (t : FeatureTable) : Bool := t.features.isEmpty

/-- A feature that is not in the table leaves no type. -/
def mask (t : FeatureTable) (token : Token) (i : Nat) : Nat :=
  match t.features[i]? with
  | none => 0
  | some f => f.mask token

end FeatureTable

/-- The types left to the tokens of a group so far, feature by feature, and the number of these tokens. -/
structure Agreement where
  masks : List Nat
  tokens : Nat
  deriving DecidableEq, Inhabited

namespace Agreement

def start : Agreement := ⟨[], 0⟩

def add (a : Agreement) (table : FeatureTable) (features : List Nat) (token : Token) : Agreement :=
  let masks := features.map (table.mask token)
  ⟨if a.tokens = 0 then masks else a.masks.zipWith (· &&& ·) masks, a.tokens + 1⟩

def agrees (a : Agreement) : Bool := a.masks.all (· != 0)

/-- The verdict on a group. One without tokens agrees. -/
def satisfies (a : Agreement) (negate : Bool) : Bool :=
  if a.tokens = 0 then !negate else a.agrees != negate

end Agreement

end GrammarCheck
