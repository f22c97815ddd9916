/-! Unsigned numbers of at most 64 bits, written in decimal. -/

namespace GrammarCheck.Text

def maxCount : Nat := UInt64.size - 1

def decimal (digits : List Char) : Nat := digits.foldl (fun n c => 10 * n + (c.toNat - 48)) 0

/-- The number that digits stand for; a plus sign may come before them. -/
def countOfDigits? (text : List Char) : Option Nat :=
  let digits := match text with
    | '+' :: rest => rest
    | _ => text
  if digits.isEmpty || !digits.all Char.isDigit then none
  else
    let n := decimal digits
    if n ≤ maxCount then some n else none

def count? (text : String) : Option Nat := countOfDigits? text.toList

end GrammarCheck.Text
