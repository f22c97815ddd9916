import GrammarCheck.Match

/-! Matches as they are reported: the rule, its texts, and the bytes of the text that are meant. -/

namespace GrammarCheck

structure Report where
  ruleId : String
  subId : String
  message : String
  shortMessage : Option String
  suggestions : List String
  /-- The tokens of the sentence. -/
  tokens : Span
  /-- The bytes of the text. -/
  bytes : Span
  deriving DecidableEq, Inhabited

namespace Report

/-- The bytes from the first token of a span to the last one. An empty span lies at the start of the token it stands
before. -/
def byteSpan (s : Sentence) (tokens : Span) : Span :=
  let start := ((s.token? tokens.start).map (·.start)).getD 0
  let stop := if tokens.isEmpty then none else s.token? (tokens.stop - 1)
  ⟨start, (stop.map (·.stop)).getD start⟩

def ofMatch (r : Rule) (s : Sentence) (m : Match) : Report where
  ruleId := r.id
  subId := r.subId
  message := m.message
  shortMessage := m.shortMessage
  suggestions := m.suggestions
  tokens := m.range
  bytes := byteSpan s m.range

/-- Do two reports give the same tokens for the same rule? -/
def sameFinding (a b : Report) : Bool := a.ruleId == b.ruleId && a.subId == b.subId && a.tokens == b.tokens

/-- Order in the text: by the first byte, then by the last one. -/
def before (a b : Report) : Bool :=
  a.bytes.start < b.bytes.start || (a.bytes.start == b.bytes.start && a.bytes.stop ≤ b.bytes.stop)

end Report

end GrammarCheck
