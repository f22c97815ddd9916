import GrammarCheck.Search.Run

/-! Matches of a rule in a sentence: the spans they cover and the texts they give. -/

namespace GrammarCheck

structure Match where
  /-- The tokens of the whole pattern. -/
  pattern : Span
  /-- The tokens of the marker. -/
  range : Span
  positions : List Span
  unifiedTokens : Nat
  markerUnifiedTokens : Nat
  message : String
  shortMessage : Option String
  suggestions : List String
  deriving DecidableEq, Inhabited

namespace Match

/-- The span of the marker. If no marked element took a token it is empty and lies where they would have been. -/
def markerRange (marked : List Span) (pattern : Span) : Span :=
  (covering marked).getD (.empty ((marked.head?.map (·.start)).getD pattern.start))

/-- How many tokens in a span were taken by elements that belong to groups of agreement. -/
def unifiedIn (range : Span) (taken : List Taken) : Nat :=
  ((taken.filter (·.1.agreement.isSome)).flatMap (·.2.indices)).countP range.contains

/-- The suggestions of a message, followed by those of the rule that are not among them. -/
def allSuggestions (own : List String) (templates : List Template) (b : Bindings) : List String :=
  (templates.filterMap (·.renderText? b)).foldl Template.addDistinct own

def ofPoint (r : Rule) (s : Sentence) (p : Point) : Match :=
  let positions := boundSpans p.taken r.positionCount
  let pattern := (covering p.spans).getD (.empty 0)
  let range := markerRange ((p.spans.drop r.marker.start).take r.marker.size) pattern
  let b : Bindings := ⟨s, positions⟩
  let rendered := r.message.render b
  { pattern, range, positions
    unifiedTokens := p.unified
    markerUnifiedTokens := unifiedIn range p.taken
    message := rendered.text
    shortMessage := r.shortMessage.bind (·.renderText? b)
    suggestions := allSuggestions rendered.suggestions r.suggestions b }

end Match

namespace Rule

/-- Where the search goes on after a match: behind it, or at the next token if matches may overlap. -/
def resume (r : Rule) (i : Nat) (m : Match) : Nat :=
  if r.allowOverlap then i + 1 else max m.pattern.stop (i + 1)

theorem lt_resume (r : Rule) (i : Nat) (m : Match) : i < r.resume i m := by
  unfold resume
  split <;> omega

/-- Matches from a token on. One that covers the same tokens as the one before is left out. -/
def matchesFrom (r : Rule) (s : Sentence) (limit : Option Nat) (i : Nat) (last : Option Span) : Counted (List Match) :=
  if i < s.size then do
    match ← r.matchAt s limit i with
    | none => matchesFrom r s limit (i + 1) last
    | some p => do
      let m := Match.ofPoint r s p
      let rest ← matchesFrom r s limit (r.resume i m) (some m.pattern)
      pure (if last = some m.pattern then rest else m :: rest)
  else pure []
termination_by s.size - i
decreasing_by
  · omega
  · have := r.lt_resume i (Match.ofPoint r s p)
    omega

/-- All matches of the rule, left to right. -/
def findMatches (r : Rule) (s : Sentence) (limit : Option Nat) : Except MatchError (List Match) :=
  if r.elements.isEmpty then .ok []
  else ((r.matchesFrom s limit 0 none).run 0).map (·.1)

end Rule

end GrammarCheck
