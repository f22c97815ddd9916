import GrammarCheck.Unicode.Classes

/-! Changing and ignoring case. Comparison lowers each character by itself, so that a text and the word list it is
looked up in agree on what lowercase is; converting a whole text also looks at the neighbours of a sigma. -/

namespace GrammarCheck.Text

open Unicode

def lowerChars (text : List Char) : List Char := text.flatMap lowerForm

def lowercase (s : String) : String := String.ofList (lowerChars s.toList)

/-- Equality with a text that is in lowercase already. -/
def eqLowercase (s lower : String) : Bool := lowerChars s.toList == lower.toList

/-- The first character that is not skipped by case rules, if there is one, has case. -/
def meetsCased (text : List Char) : Bool :=
  match text.dropWhile caseIgnorableSet.hasChar with
  | [] => false
  | c :: _ => casedSet.hasChar c

/-- Lowers a text of which the first part, in reverse, lies behind. A sigma that ends a word has its own form. -/
def lowerAfter (behind : List Char) : List Char → List Char
  | [] => []
  | c :: rest =>
    (if c = 'Σ' then [if meetsCased behind && !meetsCased rest then 'ς' else 'σ'] else lowerForm c) ++
      lowerAfter (c :: behind) rest

inductive CaseConversion where
  | keep
  | startLower
  | startUpper
  | allLower
  | allUpper
  deriving DecidableEq, Inhabited

namespace CaseConversion

def convert : CaseConversion → List Char → List Char
  | keep, text => text
  | allLower, text => lowerAfter [] text
  | allUpper, text => text.flatMap upperForm
  | startLower, c :: rest => lowerForm c ++ rest
  | startUpper, c :: rest => upperForm c ++ rest
  | startLower, [] => []
  | startUpper, [] => []

def apply (conversion : CaseConversion) (s : String) : String :=
  match conversion with
  | keep => s
  | _ => String.ofList (conversion.convert s.toList)

end CaseConversion

theorem eqLowercase_iff {s lower : String} : eqLowercase s lower = true ↔ lowercase s = lower := by
  simp only [eqLowercase, lowercase, beq_iff_eq, ← String.toList_inj, String.toList_ofList]

end GrammarCheck.Text
