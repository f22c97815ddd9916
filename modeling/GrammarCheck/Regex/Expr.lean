import GrammarCheck.Unicode.Bytes
import GrammarCheck.Unicode.Classes

/-! Patterns reduced to characters, sets of characters, conditions on places, and the ways to join them. -/

namespace GrammarCheck.Regex

open Unicode (RangeSet)

/-- Conditions on the place between two characters. Word boundaries come for all characters and for ASCII. -/
inductive Look where
  | textStart
  | textEnd
  | lineStart
  | lineEnd
  | lineStartCarriage
  | lineEndCarriage
  | wordBoundary (ascii : Bool)
  | notWordBoundary (ascii : Bool)
  | wordStart (ascii : Bool)
  | wordEnd (ascii : Bool)
  | wordStartHalf (ascii : Bool)
  | wordEndHalf (ascii : Bool)
  deriving DecidableEq, Inhabited

/-- What a pattern stands for. A text is a run of single characters; longer sequences and choices hang to the
right. -/
inductive Expr where
  | empty
  | text (chars : List Char)
  | chars (set : RangeSet)
  | look (condition : Look)
  | seq (first second : Expr)
  | either (first second : Expr)
  | loop (min : Nat) (max : Option Nat) (greedy : Bool) (body : Expr)
  | group (index : Nat) (body : Expr)
  deriving DecidableEq, Inhabited

namespace Look

def isWordAt (ascii : Bool) (c : Option Char) : Bool :=
  match c with
  | none => false
  | some c => if ascii then Unicode.isAsciiWord c else Unicode.isWord c

/-- Does the condition hold between two characters, of which either may be missing? -/
def between (condition : Look) (before after : Option Char) : Bool :=
  match condition with
  | .textStart => before.isNone
  | .textEnd => after.isNone
  | .lineStart => before.isNone || before == some '\n'
  | .lineEnd => after.isNone || after == some '\n'
  | .lineStartCarriage => before.isNone || before == some '\n' || (before == some '\r' && after != some '\n')
  | .lineEndCarriage => after.isNone || after == some '\r' || (after == some '\n' && before != some '\r')
  | .wordBoundary ascii => isWordAt ascii before != isWordAt ascii after
  | .notWordBoundary ascii => isWordAt ascii before == isWordAt ascii after
  | .wordStart ascii => !isWordAt ascii before && isWordAt ascii after
  | .wordEnd ascii => isWordAt ascii before && !isWordAt ascii after
  | .wordStartHalf ascii => !isWordAt ascii before
  | .wordEndHalf ascii => !isWordAt ascii after

def holdsAt (condition : Look) (text : Array Char) (i : Nat) : Bool :=
  condition.between (if i = 0 then none else text[i - 1]?) text[i]?

end Look

namespace Expr

/-- The least number of characters in a match; nothing is known of what may never match. -/
def minLength? : Expr → Option Nat
  | .empty => some 0
  | .text cs => some cs.length
  | .chars set => if set.ranges.isEmpty then none else some 1
  | .look _ => some 0
  | .seq a b => do
    let m ← a.minLength?
    let n ← b.minLength?
    pure (m + n)
  | .either a b => do
    let m ← a.minLength?
    let n ← b.minLength?
    pure (Nat.min m n)
  | .loop min _ _ body => body.minLength?.map (min * ·)
  | .group _ body => body.minLength?

/-- Does every match take at least one character? -/
def takesSome (e : Expr) : Bool := e.minLength?.any (0 < ·)

/-- Does no match take a character? -/
def takesNone : Expr → Bool
  | .empty => true
  | .text cs => cs.isEmpty
  | .chars _ => false
  | .look _ => true
  | .seq a b => a.takesNone && b.takesNone
  | .either a b => a.takesNone && b.takesNone
  | .loop _ max _ body => max.isSome && body.takesNone
  | .group _ body => body.takesNone

/-- Does every match have to start where the text starts? -/
def anchoredStart : Expr → Bool
  | .look condition => condition = .textStart
  | .seq a b => a.anchoredStart || (a.takesNone && b.anchoredStart)
  | .either a b => a.anchoredStart && b.anchoredStart
  | .loop min _ _ body => 0 < min && body.anchoredStart
  | .group _ body => body.anchoredStart
  | .empty => false
  | .text _ => false
  | .chars _ => false

/-- Does every match have to end where the text ends? -/
def anchoredEnd : Expr → Bool
  | .look condition => condition = .textEnd
  | .seq a b => b.anchoredEnd || (b.takesNone && a.anchoredEnd)
  | .either a b => a.anchoredEnd && b.anchoredEnd
  | .loop min _ _ body => 0 < min && body.anchoredEnd
  | .group _ body => body.anchoredEnd
  | .empty => false
  | .text _ => false
  | .chars _ => false

end Expr

end GrammarCheck.Regex
