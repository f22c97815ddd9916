import GrammarCheck.Text.Quoted
import GrammarCheck.Text.Split

/-! Readings: a base form and a part-of-speech tag, either of which may be missing. As a filter, a missing part may be
anything. A list of readings is written `base/tag|base/tag`; the last slash of an item divides it. -/

namespace GrammarCheck

structure Reading where
  base : Option String
  tag : Option String
  deriving DecidableEq, Inhabited

namespace Reading

def of (base tag : String) : Reading := ⟨some base, some tag⟩

/-- The reading of an unknown word. -/
def untagged : Reading := ⟨none, none⟩

/-- Does a reading agree with the parts that a filter gives? -/
def agreesWith (filter reading : Reading) : Bool :=
  filter.base.all (reading.base == some ·) && filter.tag.all (reading.tag == some ·)

def render (r : Reading) : String :=
  "Reading \x7b lemma: " ++ Text.quotedOption r.base ++ ", pos: " ++ Text.quotedOption r.tag ++ " \x7d"

/-- A reading of a list, or nothing if the item is blank. -/
def ofItem? (item : List Char) : Option Reading :=
  let trimmed := Text.dropTrailing Unicode.isWhitespace (Text.dropLeading Unicode.isWhitespace item)
  if trimmed.isEmpty then none
  else
    let (base, tag) := (Text.splitAtLast? '/' trimmed).getD (trimmed, [])
    some ⟨part base, part tag⟩
where
  part (text : List Char) : Option String := if text.isEmpty then none else some (String.ofList text)

def readList (list : String) : List Reading := (Text.splitAtChar '|' list.toList).filterMap ofItem?

/-- The item of a list that stands for the reading. -/
def toItem (r : Reading) : String := r.base.getD "" ++ "/" ++ r.tag.getD ""

end Reading

end GrammarCheck
