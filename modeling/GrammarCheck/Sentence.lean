import GrammarCheck.Token
import GrammarCheck.Text.Case

/-! Sentences, and the lowercase words and base forms that rules are looked up by. A sentence may hold its index; each
change of a token drops it. -/

namespace GrammarCheck

/-- The lowercase surface forms and base forms of a sentence. -/
structure WordIndex where
  words : List String
  bases : List String
  deriving DecidableEq, Inhabited

namespace WordIndex

def ofTokens (tokens : List Token) : WordIndex where
  words := tokens.map (Text.lowercase ·.text)
  bases := tokens.flatMap fun t => t.readings.filterMap fun r => r.base.map Text.lowercase

def hasWord (index : WordIndex) (word : String) : Bool := index.words.contains word

def hasBase (index : WordIndex) (base : String) : Bool := index.bases.contains base

def hasWords (index : WordIndex) (words : List String) : Bool := words.all index.hasWord

def hasBases (index : WordIndex) (bases : List String) : Bool := bases.all index.hasBase

end WordIndex

structure Sentence where
  tokens : List Token
  cached : Option WordIndex
  deriving DecidableEq, Inhabited

namespace Sentence

/-- Tokens are numbered anew. -/
def ofTokens (tokens : List Token) : Sentence where
  tokens := tokens.mapIdx fun i t => { t with position := i }
  cached := none

/-- Words with a base form and a tag each, after an opening token. -/
def ofTagged (words : List (String × String × String)) : Sentence :=
  let tokens := words.map fun (text, base, tag) => Token.new text [.of base tag]
  match tokens with
  | [] => ofTokens [.sentenceStart]
  | first :: rest => ofTokens (.sentenceStart :: { first with spaceBefore := false } :: rest)

def size (s : Sentence) : Nat := s.tokens.length

def isEmpty (s : Sentence) : Bool := s.tokens.isEmpty

def token? (s : Sentence) (i : Nat) : Option Token := s.tokens[i]?

def slice (s : Sentence) (span : Span) : List Token := (s.tokens.drop span.start).take span.size

def modifyToken (s : Sentence) (i : Nat) (f : Token → Token) : Sentence where
  tokens := s.tokens.modify i f
  cached := none

def index (s : Sentence) : WordIndex := s.cached.getD (.ofTokens s.tokens)

/-- The same sentence with its index at hand. -/
def withIndex (s : Sentence) : Sentence := { s with cached := some s.index }

/-- The last token that does not open a sentence. -/
def lastWord? (s : Sentence) : Option Token := s.tokens.reverse.find? (!·.isSentenceStart)

/-- The texts of tokens, with a blank where one stood before, but none before the first text. -/
def joinTokens (begun : Bool) : List Token → List Char
  | [] => []
  | t :: rest =>
    (if t.spaceBefore && begun then [' '] else []) ++ t.text.toList ++ joinTokens (begun || !t.text.isEmpty) rest

def text (s : Sentence) : String := String.ofList (joinTokens false s.tokens)

@[simp] theorem size_modifyToken (s : Sentence) (i : Nat) (f : Token → Token) :
    (s.modifyToken i f).size = s.size := by
  simp [modifyToken, size]

@[simp] theorem index_withIndex (s : Sentence) : s.withIndex.index = s.index := rfl

theorem index_modifyToken (s : Sentence) (i : Nat) (f : Token → Token) :
    (s.modifyToken i f).index = .ofTokens (s.modifyToken i f).tokens := rfl

end Sentence

end GrammarCheck
