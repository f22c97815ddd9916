import GrammarCheck.Reference
import GrammarCheck.Text.Number

/-! Templates of messages and suggestions: text with references `\1` and `<match no="1" .../>`, and with suggestions
between tags. -/

namespace GrammarCheck

open Text (CaseConversion)

inductive TemplateError where
  | unclosedSuggestion
  | straySuggestionEnd
  | nestedSuggestion
  | badMatchTag (source : String)
  | regex (e : Regex.Error)
  deriving DecidableEq, Inhabited

def TemplateError.message : TemplateError → String
  | unclosedSuggestion => "Unclosed <suggestion>"
  | straySuggestionEnd => "Unexpected </suggestion>"
  | nestedSuggestion => "Nested <suggestion>"
  | badMatchTag source => "Bad <match> tag: " ++ source
  | regex _ => "Invalid regex in <match> tag"

inductive Piece where
  | text (s : String)
  | reference (r : Reference)
  deriving Inhabited, BEq

inductive Segment where
  | piece (p : Piece)
  | suggestion (pieces : List Piece)
  deriving Inhabited, BEq

structure Template where
  segments : List Segment
  deriving Inhabited, BEq

namespace Template

/-- What a template is made of, as written. -/
inductive Lexeme where
  | char (c : Char)
  | number (digits : List Char)
  | openSuggestion
  | closeSuggestion
  | tag (attributes : List Char)
  deriving DecidableEq, Inhabited

def openMark : List Char := "<suggestion>".toList

def closeMark : List Char := "</suggestion>".toList

def tagMark : List Char := "<match".toList

/-- The attributes of a tag up to its end, which is the first closing bracket, and what follows. -/
def tagBody? (text : List Char) : Option (List Char × List Char) :=
  match (text.takeWhile (· != '>')).reverse, text.dropWhile (· != '>') with
  | '/' :: body, _ :: after => some (body.reverse, after)
  | _, _ => none

def startsWithWord : List Char → Bool
  | [] => false
  | c :: _ => Unicode.isWord c

/-- A lexeme longer than one character at the start of a text. -/
def mark? (text : List Char) : Option (Lexeme × List Char) :=
  match text with
  | '\\' :: rest =>
    let digits := rest.takeWhile Unicode.isDecimalDigit
    if digits.isEmpty then none else some (.number digits, rest.dropWhile Unicode.isDecimalDigit)
  | '<' :: _ =>
    match Text.dropStart? openMark text, Text.dropStart? closeMark text, Text.dropStart? tagMark text with
    | some after, _, _ => some (.openSuggestion, after)
    | none, some after, _ => some (.closeSuggestion, after)
    | none, none, some rest =>
      if startsWithWord rest then none
      else (tagBody? rest).map fun (attributes, after) => (.tag attributes, after)
    | none, none, none => none
  | _ => none

/-- The lexemes of a text; the number bounds the characters left to read. -/
def lexemes : Nat → List Char → List Lexeme
  | 0, _ => []
  | _ + 1, [] => []
  | n + 1, c :: rest =>
    match mark? (c :: rest) with
    | some (lexeme, after) => lexeme :: lexemes n after
    | none => .char c :: lexemes n rest

/-- The name and the value at the start of a text, and what follows the closing quote. -/
def attributeAt? (text : List Char) : Option (List Char × List Char × List Char) :=
  let name := text.takeWhile Unicode.isWord
  if name.isEmpty then none
  else
    match (text.dropWhile Unicode.isWord).dropWhile Unicode.isWhitespace with
    | '=' :: rest =>
      match rest.dropWhile Unicode.isWhitespace with
      | quote :: body =>
        if quote = '"' ∨ quote = '\'' then
          match body.dropWhile (· != quote) with
          | _ :: after => some (name, body.takeWhile (· != quote), after)
          | [] => none
        else none
      | [] => none
    | _ => none

/-- The names and values in a tag; whatever stands between them is passed over. -/
def attributes : Nat → List Char → List (List Char × List Char)
  | 0, _ => []
  | _ + 1, [] => []
  | n + 1, c :: rest =>
    match attributeAt? (c :: rest) with
    | some (name, value, after) => (name, value) :: attributes n after
    | none => attributes n rest

def conversion? (value : List Char) : Option CaseConversion :=
  match String.ofList (value.filter (· != '_')) with
  | "startupper" => some .startUpper
  | "startlower" => some .startLower
  | "allupper" => some .allUpper
  | "alllower" => some .allLower
  | "none" => some .keep
  | "preserve" => some .keep
  | _ => none

def skipped? : String → Option Skipped
  | "following" => some .following
  | "all" => some .all
  | "none" => some .none
  | _ => none

/-- A reference with one more attribute, unless there is no such attribute or value. -/
def applyAttribute (d : ReferenceDef) (name value : List Char) : Option ReferenceDef :=
  let text := String.ofList value
  match String.ofList name with
  | "no" => (Text.countOfDigits? value).map fun n => { d with position := n }
  | "postag" => some { d with tagFilter := some (.regex text) }
  | "postag_regexp" => some { d with tagFilter := some (.regex text) }
  | "postag_replace" => some { d with tagReplacement := some text }
  | "regex" => some { d with textPattern := some text }
  | "regexp_match" => some { d with textPattern := some text }
  | "replace" => some { d with textReplacement := some text }
  | "regexp_replace" => some { d with textReplacement := some text }
  | "case" => (conversion? value).map fun c => { d with conversion := c }
  | "case_conversion" => (conversion? value).map fun c => { d with conversion := c }
  | "setpos" => some { d with showTag := text == "yes" }
  | "suppress_misspelled" => some { d with hideMisspelled := text == "yes" }
  | "include_skipped" => (skipped? text).map fun s => { d with skipped := s }
  | _ => none

def applyAttributes : ReferenceDef → List (List Char × List Char) → Option ReferenceDef
  | d, [] => some d
  | d, (name, value) :: rest => (applyAttribute d name value).bind (applyAttributes · rest)

def trim (text : List Char) : List Char :=
  Text.dropTrailing Unicode.isWhitespace (Text.dropLeading Unicode.isWhitespace text)

def tagReference (source : List Char) : Except TemplateError Reference :=
  let bad := TemplateError.badMatchTag (String.ofList (trim source))
  match applyAttributes {} (attributes source.length source) with
  | none => .error bad
  | some d =>
    if d.position = 0 then .error bad
    else (Reference.compile d).mapError .regex

/-- The pieces read so far, the last one first: those outside suggestions, those of the suggestion that is open, and
the text since then. -/
structure Draft where
  segments : List Segment
  suggestion : Option (List Piece)
  text : List Char

namespace Draft

def addPiece (d : Draft) (p : Piece) : Draft :=
  match d.suggestion with
  | some pieces => { d with suggestion := some (p :: pieces) }
  | none => { d with segments := .piece p :: d.segments }

/-- Turns the text read so far into a piece. -/
def flush (d : Draft) : Draft :=
  if d.text.isEmpty then d
  else { d.addPiece (.text (String.ofList d.text.reverse)) with text := [] }

def add (d : Draft) : Lexeme → Except TemplateError Draft
  | .char c => .ok { d with text := c :: d.text }
  | .number digits =>
    match Text.countOfDigits? digits with
    | some n => .ok (d.flush.addPiece (.reference { position := n }))
    | none => .error (.badMatchTag (String.ofList ('\\' :: digits)))
  | .tag source => do
    let r ← tagReference source
    pure (d.flush.addPiece (.reference r))
  | .openSuggestion =>
    if d.suggestion.isSome then .error .nestedSuggestion
    else .ok { d.flush with suggestion := some [] }
  | .closeSuggestion =>
    match d.flush.suggestion with
    | none => .error .straySuggestionEnd
    | some pieces =>
      .ok { d.flush with suggestion := none, segments := .suggestion pieces.reverse :: d.flush.segments }

end Draft

def parse (source : String) : Except TemplateError Template := do
  let text := source.toList
  let d ← (lexemes text.length text).foldlM Draft.add ⟨[], none, []⟩
  if d.suggestion.isSome then throw .unclosedSuggestion
  pure ⟨d.flush.segments.reverse⟩

def isEmpty (t : Template) : Bool := t.segments.isEmpty

def Piece.reference? : Piece → Option Reference
  | .text _ => none
  | .reference r => some r

/-- All references, those in suggestions included. -/
def references (t : Template) : List Reference :=
  t.segments.flatMap fun
    | .piece p => (Piece.reference? p).toList
    | .suggestion pieces => pieces.filterMap Piece.reference?

def Piece.render? (b : Bindings) : Piece → Option String
  | .text s => some s
  | .reference r => r.resolve? b

/-- The text of pieces, if all their references are resolved. -/
def renderPieces? (b : Bindings) : List Piece → Option String
  | [] => some ""
  | p :: rest => do
    let first ← Piece.render? b p
    let others ← renderPieces? b rest
    pure (first ++ others)

structure Rendered where
  text : String
  suggestions : List String
  deriving DecidableEq, Inhabited

def addDistinct (texts : List String) (text : String) : List String :=
  if texts.contains text then texts else texts ++ [text]

def renderSegment (b : Bindings) (r : Rendered) : Segment → Rendered
  | .piece p => { r with text := r.text ++ (Piece.render? b p).getD "" }
  | .suggestion pieces =>
    match renderPieces? b pieces with
    | none => r
    | some s =>
      ⟨r.text ++ "<suggestion>" ++ s ++ "</suggestion>", addDistinct r.suggestions s⟩

/-- The text and the suggestions; a reference that is not resolved is left out, and with it its suggestion. -/
def render (t : Template) (b : Bindings) : Rendered := t.segments.foldl (renderSegment b) ⟨"", []⟩

def renderSegmentText? (b : Bindings) : Segment → Option String
  | .piece p => Piece.render? b p
  | .suggestion pieces => renderPieces? b pieces

def renderSegments? (b : Bindings) : List Segment → Option String
  | [] => some ""
  | s :: rest => do
    let first ← renderSegmentText? b s
    let others ← renderSegments? b rest
    pure (first ++ others)

/-- The text without tags, if all references are resolved. -/
def renderText? (t : Template) (b : Bindings) : Option String := renderSegments? b t.segments

end Template

end GrammarCheck
