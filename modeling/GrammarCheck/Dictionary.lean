import GrammarCheck.Token
import GrammarCheck.Text.Case
import GrammarCheck.Text.Interner

/-! Dictionaries of word forms. A line gives a form, a base form and a tag with tabs between them; blank lines and those
that start with a number sign do not count. -/

namespace GrammarCheck

inductive DictionaryError where
  | notText
  | malformedLine (line : Nat) (content : String)
  deriving DecidableEq, Inhabited

def DictionaryError.message : DictionaryError → String
  | notText => "Dictionary I/O error: stream did not contain valid UTF-8"
  | malformedLine line content => s!"Malformed dictionary line {line}: " ++ Text.quoted content

/-- Forms with their readings, both in the order of the lines. -/
structure Dictionary where
  entries : List (String × List Reading)
  deriving DecidableEq, Inhabited

namespace Dictionary

def empty : Dictionary := ⟨[]⟩

def size (d : Dictionary) : Nat := d.entries.length

def isEmpty (d : Dictionary) : Bool := d.entries.isEmpty

def lookup (d : Dictionary) (form : String) : List Reading := (d.entries.lookup form).getD []

/-- The readings of a word, or else those of its lowercase form. -/
def lookupWord (d : Dictionary) (word : String) : List Reading :=
  let found := d.lookup word
  if found.isEmpty then d.lookup (Text.lowercase word) else found

def tag (d : Dictionary) (words : List String) : List Token := words.map fun w => .new w (d.lookupWord w)

/-- An item is put behind the others unless it is among them. -/
def addNew {α : Type} [DecidableEq α] (items : List α) (item : α) : List α :=
  if item ∈ items then items else items ++ [item]

/-- Adds an item to those of a form. -/
def addTo {α : Type} [DecidableEq α] (form : String) (item : α) : List (String × List α) → List (String × List α)
  | [] => [(form, [item])]
  | (f, items) :: rest => if f = form then (f, addNew items item) :: rest else (f, items) :: addTo form item rest

/-- A dictionary that is being read. Base forms and tags come again and again, so each text is kept once, and a reading is
a pair of places. -/
structure Draft where
  texts : Text.Interner
  entries : List (String × List (Nat × Nat))
  deriving DecidableEq, Inhabited

namespace Draft

def empty : Draft := ⟨.empty, []⟩

def add (d : Draft) (form base tag : String) : Draft :=
  let (baseKey, texts) := d.texts.intern base
  let (tagKey, texts) := texts.intern tag
  ⟨texts, addTo form (baseKey, tagKey) d.entries⟩

def reading (d : Draft) (keys : Nat × Nat) : Reading := .of (d.texts.resolve keys.1) (d.texts.resolve keys.2)

def finish (d : Draft) : Dictionary := ⟨d.entries.map fun (form, keys) => (form, keys.map d.reading)⟩

end Draft

def isSkipped (line : List Char) : Bool := line.all Unicode.isWhitespace || line.head? == some '#'

/-- A line without the carriage returns at its end. -/
def lineContent (line : List Char) : List Char := Text.dropTrailing (· == '\r') line

def Draft.addLine (d : Draft) (number : Nat) (line : List Char) : Except DictionaryError Draft :=
  let content := lineContent line
  if isSkipped content then .ok d
  else match Text.splitAtChar '\t' content with
    | [form, base, tag] => .ok (d.add (String.ofList form) (String.ofList base) (String.ofList tag))
    | _ => .error (.malformedLine number (String.ofList content))

/-- Adds lines in order; one that is no text is missing. -/
def Draft.addLines (d : Draft) (number : Nat) : List (Option (List Char)) → Except DictionaryError Draft
  | [] => .ok d
  | none :: _ => .error .notText
  | some line :: rest => do
    let d ← d.addLine number line
    d.addLines (number + 1) rest

def ofLines (lines : List (Option (List Char))) : Except DictionaryError Dictionary :=
  (Draft.empty.addLines 1 lines).map Draft.finish

def ofText (data : String) : Except DictionaryError Dictionary :=
  ofLines ((Text.splitAtChar '\n' data.toList).map some)

/-- The lines of a file. -/
def byteLines : List UInt8 → List (List UInt8)
  | [] => [[]]
  | b :: rest =>
    if b = 10 then [] :: byteLines rest
    else match byteLines rest with
      | [] => [[b]]
      | line :: lines => (b :: line) :: lines

def ofBytes (data : List UInt8) : Except DictionaryError Dictionary :=
  ofLines ((byteLines data).map fun line => (String.fromUTF8? ⟨line.toArray⟩).map String.toList)

end Dictionary

end GrammarCheck
