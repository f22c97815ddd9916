import GrammarCheck.Regex.Meaning
import GrammarCheck.Regex.Storage

/-! Patterns over characters, and whether they match somewhere in a text. Matching follows all choices at once: an
expression takes the places where it may start, in ascending order, to those where it can end. -/

namespace GrammarCheck

structure Regex where
  source : String
  expr : Regex.Expr
  groups : List (String × Nat)
  deriving DecidableEq, Inhabited

namespace Regex

/-- The expression that a pattern stands for under some flags, with the names of its groups. -/
def Expr.read (flags : Flags) (source : List Char) : Except Error (Expr × List (List Char × Nat)) := do
  let (ast, names) ← Ast.read source
  let (expr, _) ← ast.meaning flags
  pure (expr, names)

def ofString (source : String) : Except Error Regex := do
  let (expr, names) ← Expr.read {} source.toList
  if expr.fits then
    pure ⟨source, expr, names.map fun (name, index) => (String.ofList name, index)⟩
  else throw .tooLarge

/-- The places of two ascending lists, ascending and each once. -/
def addPlaces : List Nat → List Nat → List Nat
  | [], more => more
  | i :: places, more => more.takeWhile (· < i) ++ i :: addPlaces places (more.dropWhile (· ≤ i))

/-- Applies a step a number of times; one that changes nothing is not taken again. -/
def times (step : List Nat → List Nat) : Nat → List Nat → List Nat
  | 0, places => places
  | n + 1, places =>
    let next := step places
    if next = places then places else times step n next

/-- The places reached by at most a number of steps. Only places that are new can lead to further ones. -/
def reach (step : List Nat → List Nat) : Nat → List Nat → List Nat → List Nat
  | 0, seen, _ => seen
  | n + 1, seen, new =>
    let next := (step new).filter (!seen.contains ·)
    if next.isEmpty then seen else reach step n (addPlaces seen next) next

/-- The places after a text that starts at one of the given places. -/
def textEnds (text : Array Char) (cs : List Char) (places : List Nat) : List Nat :=
  cs.foldl (fun places c => (places.filter fun i => text[i]? == some c).map (· + 1)) places

namespace Expr

/-- The places where the expression can end if it starts at one of the given places. -/
def ends (text : Array Char) : Expr → List Nat → List Nat
  | .empty, places => places
  | .text cs, places => textEnds text cs places
  | .chars set, places => (places.filter fun i => text[i]?.any set.hasChar).map (· + 1)
  | .look condition, places => places.filter (condition.holdsAt text)
  | .seq a b, places => b.ends text (a.ends text places)
  | .either a b, places => addPlaces (a.ends text places) (b.ends text places)
  | .group _ body, places => body.ends text places
  | .loop min max _ body, places =>
    let start := times (body.ends text) min places
    let extra := match max with
      | none => text.size + 1
      | some m => m - min
    reach (body.ends text) extra start start

end Expr

/-- Does the pattern match a part of the text? -/
def isMatch (r : Regex) (text : String) : Bool :=
  let chars := text.toList.toArray
  !(r.expr.ends chars (List.range (chars.size + 1))).isEmpty

end Regex

end GrammarCheck
