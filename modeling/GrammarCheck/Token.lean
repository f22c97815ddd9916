import GrammarCheck.Reading

/-! Tokens with their readings. A token always has a reading, and editing its readings keeps one. -/

namespace GrammarCheck

structure Token where
  text : String
  spaceBefore : Bool
  /-- Index in the sentence. -/
  position : Nat
  /-- Byte offset in the text. -/
  start : Nat
  readings : List Reading
  misspelled : Bool
  immunized : Bool
  ignoreSpelling : Bool
  deriving DecidableEq, Inhabited

namespace Token

def sentenceStartTag : String := "SENT_START"

def new (text : String) (readings : List Reading) : Token where
  text := text
  spaceBefore := true
  position := 0
  start := 0
  readings := if readings.isEmpty then [.untagged] else readings
  misspelled := false
  immunized := false
  ignoreSpelling := false

/-- The empty token that opens a sentence. -/
def sentenceStart : Token := { new "" [⟨none, some sentenceStartTag⟩] with spaceBefore := false }

def stop (t : Token) : Nat := t.start + t.text.utf8ByteSize

def hasTag (t : Token) (tag : String) : Bool := t.readings.any (·.tag == some tag)

def isSentenceStart (t : Token) : Bool := t.hasTag sentenceStartTag

/-- An empty list is refused. -/
def setReadings (t : Token) (readings : List Reading) : Token :=
  if readings.isEmpty then t else { t with readings := readings }

def addReading (t : Token) (reading : Reading) : Token :=
  if t.readings.contains reading then t else { t with readings := t.readings ++ [reading] }

/-- Removes readings, unless that would leave none. -/
def removeReadings (t : Token) (remove : Reading → Bool) : Token :=
  t.setReadings (t.readings.filter (!remove ·))

/-- How many readings a removal takes away. -/
def removalCount (t : Token) (remove : Reading → Bool) : Nat :=
  t.readings.length - (t.removeReadings remove).readings.length

def immunize (t : Token) : Token := { t with immunized := true }

def acceptSpelling (t : Token) : Token := { t with ignoreSpelling := true, misspelled := false }

theorem readings_new_ne_nil (text : String) (readings : List Reading) : (new text readings).readings ≠ [] := by
  cases readings <;> simp [new]

theorem readings_setReadings_ne_nil {t : Token} (h : t.readings ≠ []) (readings : List Reading) :
    (t.setReadings readings).readings ≠ [] := by
  cases readings <;> simp [setReadings, h]

theorem readings_addReading_ne_nil {t : Token} (h : t.readings ≠ []) (reading : Reading) :
    (t.addReading reading).readings ≠ [] := by
  unfold addReading
  split <;> simp [h]

theorem readings_removeReadings_ne_nil {t : Token} (h : t.readings ≠ []) (remove : Reading → Bool) :
    (t.removeReadings remove).readings ≠ [] := readings_setReadings_ne_nil h _

end Token

end GrammarCheck
