import GrammarCheck.Rule.Basic

/-! Points of the search for a match. A point says how far the elements of a rule have been matched: the span that each
took, how many tokens may be passed over before the next one, whose exceptions watch these tokens, and how far the
group of agreement has come. -/

namespace GrammarCheck

/-- The span an element took. -/
abbrev Taken := Element × Span

/-- Joins the span of one more element to those of its position. An empty span adds nothing to one that is there. -/
def joinSpan (bound : Option Span) (span : Span) : Span :=
  match bound with
  | none => span
  | some b => if span.isEmpty then b else if b.isEmpty then span else ⟨b.start, span.stop⟩

/-- The span bound to a position by the elements that come from it. -/
def boundSpan (taken : List Taken) (position : Nat) : Span :=
  let spans := (taken.filter (·.1.position == position)).map (·.2)
  (spans.foldl (fun b s => some (joinSpan b s)) none).getD (.empty 0)

def boundSpans (taken : List Taken) (positions : Nat) : List Span := (List.range positions).map (boundSpan taken)

/-- The smallest span that covers those that are not empty. -/
def covering (spans : List Span) : Option Span :=
  (spans.filter (!·.isEmpty)).foldl (fun c s => some (match c with
    | none => s
    | some c => c.union s)) none

structure Point where
  /-- The first token that the next element may take. -/
  cursor : Nat
  /-- How many tokens may be passed over before it. -/
  gap : Bound
  /-- The element whose exceptions on the next token hold in the gap. -/
  guard : Option Element
  taken : List Taken
  agreement : Agreement
  /-- The tokens of the groups of agreement that are complete. -/
  unified : Nat
  deriving Inhabited

namespace Point

def start (i : Nat) : Point := ⟨i, .upTo 0, none, [], .start, 0⟩

def spans (p : Point) : List Span := p.taken.map (·.2)

/-- Matches without tokens do not count. -/
def isNonempty (p : Point) : Bool := p.spans.any (!·.isEmpty)

/-- The bindings that an element sees, if it refers to any. -/
def bindings? (p : Point) (s : Sentence) (e : Element) : Option Bindings :=
  if e.hasReferences then some ⟨s, boundSpans p.taken e.position⟩ else none

/-- How many tokens from one on meet a condition, up to a limit. -/
def runLength (holds : Nat → Bool) (i : Nat) : Nat → Nat
  | 0 => 0
  | limit + 1 => if holds i then runLength holds (i + 1) limit + 1 else 0

/-- The tokens at which the next element may start: those in the gap up to the first one that the guard forbids. -/
def starts (p : Point) (s : Sentence) : List Nat :=
  let stop := match p.gap with
    | .upTo n => min (p.cursor + n + 1) s.size
    | .unbounded => s.size
  (Span.mk p.cursor stop).indices.takeWhile fun i => !p.guard.any (·.nextExceptionAt s i none)

/-- An element's own exceptions on the next token, as a guard. -/
def guardOf (e : Element) : Option Element := if e.hasNextExceptions then some e else none

/-- The point after an element took a span, before agreement is looked at. -/
def advance (p : Point) (e : Element) (span : Span) (gap : Bound) (guard : Option Element) : Point :=
  { p with cursor := span.stop, gap, guard, taken := p.taken ++ [(e, span)] }

/-- The point with the agreement of its group so far. Where the group ends, its verdict decides. -/
def settle? (p : Point) (e : Element) (a : Agreement) : Option Point :=
  match e.agreement with
  | none => some p
  | some slot =>
    if !slot.last then some { p with agreement := a }
    else if a.satisfies slot.negate then some { p with agreement := .start, unified := p.unified + a.tokens }
    else none

/-- The agreement after each further token. A group that has to agree ends with the first token that does not. -/
def agreements (a : Agreement) (table : FeatureTable) (slot : AgreementSlot) : List Token → List Agreement
  | [] => []
  | t :: rest =>
    let next := a.add table slot.features t
    if !next.agrees && !slot.negate then [] else next :: agreements next table slot rest

/-- The counts from a highest one down to a lowest one. -/
def countsDown (low high : Nat) : List Nat := (List.range' low (high + 1 - low)).reverse

/-- The points after an element took tokens from a given one on, the longest run first. -/
def takeFrom (p : Point) (table : FeatureTable) (s : Sentence) (e : Element) (i : Nat) : List Point :=
  let run := runLength (fun j => e.matchesAt s j (p.bindings? s e)) i (e.max.clamp (s.size - i))
  let low := max e.min 1
  match e.agreement with
  | none => (countsDown low run).map fun n => p.advance e ⟨i, i + n⟩ e.skip (guardOf e)
  | some slot =>
    let reached := agreements p.agreement table slot (s.slice ⟨i, i + run⟩)
    (countsDown low reached.length).filterMap fun n =>
      (reached[n - 1]?).bind ((p.advance e ⟨i, i + n⟩ e.skip (guardOf e)).settle? e)

/-- The point after an element that is left out: its gap adds to the one before, and so does its guard unless it has
none. -/
def leaveOut (p : Point) (e : Element) : List Point :=
  if e.min = 0 then
    ((p.advance e (.empty p.cursor) (p.gap.add e.skip) ((guardOf e).or p.guard)).settle? e p.agreement).toList
  else []

/-- The points that follow, the preferred ones first: earlier tokens before later ones, longer runs before shorter
ones, and leaving the element out last. -/
def successors (p : Point) (table : FeatureTable) (s : Sentence) (e : Element) : List Point :=
  (p.starts s).flatMap (p.takeFrom table s e) ++ p.leaveOut e

end Point

end GrammarCheck
