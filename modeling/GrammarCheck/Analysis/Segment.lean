import GrammarCheck.Analysis.Piece

/-! Paragraphs, sentences and tokens of a text. Two newlines end a paragraph. A sentence ends after a run of closing
marks with a terminator in it, where a blank or the end of the paragraph follows. Tokens are runs of word characters
and single marks. -/

namespace GrammarCheck.Analysis

def paragraphTexts : List Char → List (List Char)
  | [] => [[]]
  | '\n' :: '\n' :: rest => [] :: paragraphTexts rest
  | c :: rest => consHead c (paragraphTexts rest)

def paragraphs (text : List Char) : List Piece := Piece.locate ['\n', '\n'] 0 none (paragraphTexts text)

def isTerminator (c : Char) : Bool := c == '.' || c == '!' || c == '?' || c == '…'

def isClosing (c : Char) : Bool :=
  c == '"' || c == '\'' || c == ')' || c == ']' || c == '»' || c == '”' || c == '’'

/-- The sentences of a paragraph with the blanks around them; `ending` says that a run of marks with a terminator lies
just behind. -/
def sentenceTexts (ending : Bool) : List Char → List (List Char)
  | [] => [[]]
  | c :: rest =>
    if ending && Unicode.isWhitespace c then [] :: consHead c (sentenceTexts false rest)
    else consHead c (sentenceTexts (isTerminator c || (ending && isClosing c)) rest)

def sentencesOf (paragraph : Piece) : List Piece :=
  ((Piece.locate [] paragraph.start paragraph.before (sentenceTexts false paragraph.text)).map Piece.trim).filter
    (!·.text.isEmpty)

def sentences (text : List Char) : List Piece := (paragraphs text).flatMap sentencesOf

inductive CharKind where
  | blank
  | word
  | mark
  deriving DecidableEq, Inhabited

def kindOf (c : Char) : CharKind :=
  if Unicode.isWhitespace c then .blank else if Unicode.isWord c then .word else .mark

/-- A word character before the tokens of the text after it. -/
def joinWord (start : Nat) (c : Char) (before : Option Char) (rest : List Char) (tokens : List Piece) : List Piece :=
  match rest, tokens with
  | d :: _, next :: others =>
    if kindOf d = .word then ⟨start, c :: next.text, before⟩ :: others else ⟨start, [c], before⟩ :: tokens
  | _, _ => ⟨start, [c], before⟩ :: tokens

def tokensFrom (start : Nat) (before : Option Char) : List Char → List Piece
  | [] => []
  | c :: rest =>
    let tokens := tokensFrom (start + c.utf8Size) (some c) rest
    match kindOf c with
    | .blank => tokens
    | .word => joinWord start c before rest tokens
    | .mark => ⟨start, [c], before⟩ :: tokens

def tokens (p : Piece) : List Piece := tokensFrom p.start p.before p.text

end GrammarCheck.Analysis
