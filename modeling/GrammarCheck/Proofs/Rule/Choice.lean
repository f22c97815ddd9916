import GrammarCheck.Rule.Expansion

/-! Ways to choose among the alternatives of the phrases that a pattern refers to. A way is the list of the alternatives
taken, in the order in which the references are met; one that stands in an alternative that is not taken is not met.
Each way gives a sequence of tokens. A token of a phrase has the position of the outermost reference, and the marker and
the block of agreement in which that reference stands, unless the phrase has a block of its own around the token. -/

namespace GrammarCheck

mutual

/-- The positions that an item takes. -/
def PatternItem.positionCount : PatternItem → Nat
  | .tokens _ => 1
  | .phrase _ _ => 1
  | .marker items _ => positionCounts items
  | .unify _ _ items _ => positionCounts items

def positionCounts : List PatternItem → Nat
  | [] => 0
  | first :: rest => first.positionCount + positionCounts rest

end

/-- A block of agreement and the way to it through the pattern, from the inside out: the places of items in their
lists, and after the place of a reference the alternative that was taken. -/
structure UnifyBlock where
  address : List Nat
  features : List String
  negate : Bool
  deriving DecidableEq

/-- A token and what holds where it stands. -/
structure ChosenToken where
  group : TokenGroup
  position : Nat
  inMarker : Bool
  block : Option UnifyBlock
  deriving DecidableEq

/-- Where an item stands: its place in its list, the way to the list, and what holds there. -/
structure Place where
  index : Nat
  path : List Nat
  /-- The position of the item. In a phrase all items have the position of the reference. -/
  position : Nat
  inPhrase : Bool
  inMarker : Bool
  block : Option UnifyBlock

namespace Place

def root : Place := ⟨0, [], 0, false, false, none⟩

def address (p : Place) : List Nat := p.index :: p.path

/-- The place behind an item. -/
def next (p : Place) (item : PatternItem) : Place :=
  { p with index := p.index + 1, position := if p.inPhrase then p.position else p.position + item.positionCount }

def token (p : Place) (group : TokenGroup) : ChosenToken := ⟨group, p.position, p.inMarker, p.block⟩

def marked (p : Place) : Place := { p with index := 0, path := p.address, inMarker := true }

def unifyBlock (p : Place) (features : List String) (negate : Bool) : UnifyBlock := ⟨p.address, features, negate⟩

def unified (p : Place) (features : List String) (negate : Bool) : Place :=
  { p with index := 0, path := p.address, block := some (p.unifyBlock features negate) }

/-- The first place in an alternative of a phrase, for a reference that stands here. -/
def inAlternative (p : Place) (k : Nat) : Place := { p with index := 0, path := k :: p.address, inPhrase := true }

end Place

mutual

/-- A way through an item, and its tokens. -/
inductive ItemChosen (context : RuleContext) : Place → PatternItem → List Nat → List ChosenToken → Prop
  | tokens {place group} : ItemChosen context place (.tokens group) [] [place.token group]
  | phrase {place name location phrase k alternative choice tokens} (hphrase : context.phrase? name = some phrase)
      (hk : phrase.alternatives[k]? = some alternative)
      (hitems : Chosen context (place.inAlternative k) alternative choice tokens) :
      ItemChosen context place (.phrase name location) (k :: choice) tokens
  | marker {place items location choice tokens} (hitems : Chosen context place.marked items choice tokens) :
      ItemChosen context place (.marker items location) choice tokens
  | unify {place features negate items location choice tokens}
      (hitems : Chosen context (place.unified features negate) items choice tokens) :
      ItemChosen context place (.unify features negate items location) choice tokens

/-- A way through items one after another, and their tokens. -/
inductive Chosen (context : RuleContext) : Place → List PatternItem → List Nat → List ChosenToken → Prop
  | nil {place} : Chosen context place [] [] []
  | cons {place item rest choice choices tokens others} (hitem : ItemChosen context place item choice tokens)
      (hrest : Chosen context (place.next item) rest choices others) :
      Chosen context place (item :: rest) (choice ++ choices) (tokens ++ others)

end

end GrammarCheck
