import GrammarCheck.Agreement

/-! Pattern elements: conditions on a token, exceptions, how often the element may occur, and how many tokens may be
passed over after it. -/

namespace GrammarCheck

structure TokenException where
  condition : Condition
  scope : Scope
  deriving Inhabited, BEq

/-- Membership of an element in a group of elements that have to agree, or to disagree. -/
structure AgreementSlot where
  group : Nat
  features : List Nat
  negate : Bool
  last : Bool
  deriving DecidableEq, Inhabited

structure Element where
  condition : Condition
  others : List Condition
  exceptions : List TokenException
  min : Nat
  max : Bound
  skip : Bound
  agreement : Option AgreementSlot
  /-- The position of the pattern that the element comes from, counted from zero. -/
  position : Nat
  deriving Inhabited, BEq

namespace Element

def vetoedBy (s : Sentence) (i : Nat) (bindings : Option Bindings) (e : TokenException) : Bool :=
  match e.scope with
  | .current => (s.token? i).any (e.condition.holds · bindings)
  | .previous => i != 0 && (s.token? (i - 1)).any (e.condition.holds · bindings)
  | .next => false

/-- Does a token meet the conditions, and none of the exceptions on it and on the token before it? -/
def matchesAt (e : Element) (s : Sentence) (i : Nat) (bindings : Option Bindings) : Bool :=
  match s.token? i with
  | none => false
  | some t =>
    e.condition.holds t bindings && e.others.all (·.holds t bindings) &&
      !e.exceptions.any (vetoedBy s i bindings)

/-- Does an exception on the next token hold of a token? -/
def nextExceptionAt (e : Element) (s : Sentence) (i : Nat) (bindings : Option Bindings) : Bool :=
  (s.token? i).any fun t => e.exceptions.any fun x => x.scope == .next && x.condition.holds t bindings

def hasNextExceptions (e : Element) : Bool := e.exceptions.any (·.scope == .next)

/-- The references of all conditions of the element. -/
def references (e : Element) : List Nat :=
  (e.condition :: e.others ++ e.exceptions.map (·.condition)).filterMap (·.reference)

def hasReferences (e : Element) : Bool := !e.references.isEmpty

/-- A word that every match of the element needs, and whether it is a base form. -/
def requiredWord? (e : Element) : Option (String × Bool) :=
  if e.min = 0 then none else e.condition.requiredWord?

end Element

end GrammarCheck
