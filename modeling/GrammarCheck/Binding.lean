import GrammarCheck.Sentence

/-! The tokens of a sentence that are bound to the positions of a pattern. Positions are counted from one where a rule
refers to them. -/

namespace GrammarCheck

structure Bindings where
  sentence : Sentence
  positions : List Span
  deriving Inhabited

namespace Bindings

/-- The span bound to a position counted from one. -/
def span? (b : Bindings) : Nat → Option Span
  | 0 => none
  | i + 1 => b.positions[i]?

/-- Where the tokens that follow a position end: at the next position that is not empty. -/
def followingStop (b : Bindings) (position : Nat) : Nat :=
  let own := ((b.span? position).map (·.stop)).getD 0
  match (b.positions.drop position).find? (!·.isEmpty) with
  | some next => max next.start own
  | none => own

/-- The text of the first token of a position; a position that took no token gives the empty text. -/
def firstText? (b : Bindings) (position : Nat) : Option String :=
  match b.span? position with
  | none => none
  | some span => if span.isEmpty then some "" else (b.sentence.token? span.start).map (·.text)

/-- The text of the tokens in a span, with blanks as in the sentence. -/
def joinedText (b : Bindings) (span : Span) : String :=
  String.ofList (Sentence.joinTokens false (b.sentence.slice span))

end Bindings

end GrammarCheck
