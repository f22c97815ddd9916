import GrammarCheck.Regex.Expr

/-! Putting expressions together in their simplest form: nested sequences and choices become one, neighbouring
characters one text, choices between characters a set, and what all branches of a choice start with stands before it. -/

namespace GrammarCheck.Regex.Expr

open Unicode (RangeSet)

/-- One character out of a set; a single one is a text. -/
def ofSet (s : RangeSet) : Expr :=
  match s.onlyChar? with
  | some c => .text [c]
  | none => .chars s.scalars

/-- What takes no character is repeated once at most. -/
def repeated (min : Nat) (max : Option Nat) (greedy : Bool) (body : Expr) : Expr :=
  let (min, max) :=
    if body.takesNone then (Nat.min min 1, some (Nat.min (max.getD 1) 1)) else (min, max)
  if min = 0 ∧ max = some 0 then .empty
  else if min = 1 ∧ max = some 1 then body
  else .loop min max greedy body

def size : Expr → Nat
  | .seq a b => a.size + b.size + 1
  | .either a b => a.size + b.size + 1
  | .loop _ _ _ body => body.size + 1
  | .group _ body => body.size + 1
  | .empty => 1
  | .text _ => 1
  | .chars _ => 1
  | .look _ => 1

/-- What a sequence joins. -/
def items : Expr → List Expr
  | .empty => []
  | .seq a b => a.items ++ b.items
  | e => [e]

/-- What a choice offers. -/
def branches : Expr → List Expr
  | .either a b => a.branches ++ b.branches
  | e => [e]

def joinTexts : List Expr → List Expr
  | [] => []
  | .text a :: rest =>
    match joinTexts rest with
    | .text b :: others => .text (a ++ b) :: others
    | others => .text a :: others
  | e :: rest => e :: joinTexts rest

def seqOf : List Expr → Expr
  | [] => .empty
  | [e] => e
  | e :: rest => .seq e (seqOf rest)

def eitherOf : List Expr → Expr
  | [] => .chars .empty
  | [e] => e
  | e :: rest => .either e (eitherOf rest)

def sequence (es : List Expr) : Expr := seqOf (joinTexts (es.flatMap items))

def singleChar? : Expr → Option Nat
  | .text [c] => some c.toNat
  | _ => none

def set? : Expr → Option RangeSet
  | .chars s => some s
  | _ => none

/-- The set that a choice between characters, or between sets, amounts to. -/
def commonSet? (es : List Expr) : Option RangeSet :=
  match es.mapM singleChar? with
  | some codes => some (.ofCodePoints codes)
  | none => (es.mapM set?).map .unions

/-- The items of a sequence of more than one. -/
def sequenceItems? : Expr → Option (List Expr)
  | .seq a b => some (items (.seq a b))
  | _ => none

def sharedStart : List Expr → List Expr → List Expr
  | a :: as, b :: bs => if a = b then a :: sharedStart as bs else []
  | _, _ => []

def sharedStarts : List (List Expr) → List Expr
  | [] => []
  | first :: rest => rest.foldl sharedStart first

/-- A choice; the number bounds how often a shared start is taken out. -/
def choiceWithin : Nat → List Expr → Expr
  | 0, es => eitherOf es
  | fuel + 1, es =>
    match es.flatMap branches with
    | [] => .chars .empty
    | [e] => e
    | es =>
      match commonSet? es with
      | some s => ofSet s
      | none =>
        match es.mapM sequenceItems? with
        | none => eitherOf es
        | some lists =>
          let shared := sharedStarts lists
          if shared.isEmpty then eitherOf es
          else sequence (shared ++ [choiceWithin fuel (lists.map fun list => sequence (list.drop shared.length))])

def choice (es : List Expr) : Expr := choiceWithin (es.foldr (fun e fuel => e.size + fuel) 1) es

end GrammarCheck.Regex.Expr
