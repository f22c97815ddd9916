import GrammarCheck.Analysis.Segment
import GrammarCheck.Dictionary
import GrammarCheck.Sentence

/-! Texts as sentences of tokens, with readings from a dictionary if there is one. Each sentence opens with an empty
token. -/

namespace GrammarCheck.Analysis

def token (dictionary : Option Dictionary) (p : Piece) : Token :=
  let word := String.ofList p.text
  { Token.new word ((dictionary.map (·.lookupWord word)).getD []) with
    spaceBefore := p.before.any Unicode.isWhitespace
    start := p.start }

def sentence (dictionary : Option Dictionary) (p : Piece) : Sentence :=
  .ofTokens ({ Token.sentenceStart with start := p.start } :: (tokens p).map (token dictionary))

def analyze (dictionary : Option Dictionary) (text : String) : List Sentence :=
  (sentences text.toList).map (sentence dictionary)

end GrammarCheck.Analysis
