import GrammarCheck.Analysis.Piece

/-! Marked parts of texts. Marking puts a tag before a part and one after it; stripping takes the first pair away and
gives the bytes between. -/

namespace GrammarCheck.Text.Marker

def openTag : List Char := "<marker>".toList

def closeTag : List Char := "</marker>".toList

/-- A text without its first marker, and the bytes that were marked. A marker that is not closed marks nothing, but
its tag is taken away too. -/
def stripChars (text : List Char) : List Char × Option Span :=
  match splitAtFirst? openTag text with
  | none => (text, none)
  | some (before, rest) =>
    match splitAtFirst? closeTag rest with
    | none => (before ++ rest, none)
    | some (marked, after) =>
      let start := Analysis.byteLength before
      (before ++ marked ++ after, some ⟨start, start + Analysis.byteLength marked⟩)

def strip (text : String) : String × Option Span :=
  let (plain, span) := stripChars text.toList
  (String.ofList plain, span)

/-- The first characters of a text that take a number of bytes, and the others. -/
def splitAtByte (n : Nat) : List Char → List Char × List Char
  | [] => ([], [])
  | c :: rest =>
    if n < c.utf8Size then ([], c :: rest)
    else
      let (before, after) := splitAtByte (n - c.utf8Size) rest
      (c :: before, after)

/-- Puts tags around the bytes of a span. -/
def mark (text : List Char) (span : Span) : List Char :=
  let (before, rest) := splitAtByte span.start text
  let (marked, after) := splitAtByte span.size rest
  before ++ openTag ++ marked ++ closeTag ++ after

end GrammarCheck.Text.Marker
