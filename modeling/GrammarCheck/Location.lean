/-! Places in a rule file: line and column, both from one on; only a newline ends a line. -/

namespace GrammarCheck

structure Location where
  line : Nat
  column : Nat
  deriving DecidableEq, Inhabited

namespace Location

def start : Location := ⟨1, 1⟩

def after (place : Location) (c : Char) : Location :=
  if c = '\n' then ⟨place.line + 1, 1⟩ else ⟨place.line, place.column + 1⟩

def afterAll (place : Location) (text : List Char) : Location := text.foldl after place

def render (place : Location) : String := s!"{place.line}:{place.column}"

end Location

end GrammarCheck
