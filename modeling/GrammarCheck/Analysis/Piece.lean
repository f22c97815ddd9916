import GrammarCheck.Unicode.Classes
import GrammarCheck.Span

/-! Pieces of a text: some of its characters, the byte offset of the first one, and the character before it. -/

namespace GrammarCheck.Analysis

def byteLength (text : List Char) : Nat := text.foldr (fun c bytes => c.utf8Size + bytes) 0

structure Piece where
  start : Nat
  text : List Char
  before : Option Char
  deriving DecidableEq, Inhabited

namespace Piece

def ofText (text : List Char) : Piece := ⟨0, text, none⟩

def span (p : Piece) : Span := ⟨p.start, p.start + byteLength p.text⟩

/-- The piece without the blanks at its start. -/
def trimStart (start : Nat) (before : Option Char) : List Char → Piece
  | [] => ⟨start, [], before⟩
  | c :: rest =>
    if Unicode.isWhitespace c then trimStart (start + c.utf8Size) (some c) rest else ⟨start, c :: rest, before⟩

def trim (p : Piece) : Piece :=
  let trimmed := trimStart p.start p.before p.text
  { trimmed with text := Text.dropTrailing Unicode.isWhitespace trimmed.text }

/-- Pieces that follow one another with a number of characters between them. -/
def locate (separator : List Char) (start : Nat) (before : Option Char) : List (List Char) → List Piece
  | [] => []
  | text :: rest =>
    let next := text ++ separator
    ⟨start, text, before⟩ :: locate separator (start + byteLength next) (next.getLast?.or before) rest

end Piece

def consHead (c : Char) : List (List Char) → List (List Char)
  | [] => [[c]]
  | piece :: rest => (c :: piece) :: rest

end GrammarCheck.Analysis
