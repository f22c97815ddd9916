import GrammarCheck.Unicode.Classes
import GrammarCheck.Span

/-! Values as messages show them: text in double quotes, lists in brackets, missing parts by name. -/

namespace GrammarCheck.Text

def lowerHex (n : Nat) : String := String.ofList (Nat.toDigits 16 n)

/-- A character that cannot be seen by itself is shown by its code. -/
def quotedChar (c : Char) : String :=
  match c with
  | '\x00' => "\\0"
  | '\t' => "\\t"
  | '\r' => "\\r"
  | '\n' => "\\n"
  | '\\' => "\\\\"
  | '"' => "\\\""
  | c =>
    if Unicode.isGraphemeExtend c || !Unicode.isPrintable c then "\\u\x7b" ++ lowerHex c.toNat ++ "\x7d"
    else String.singleton c

def quoted (s : String) : String := "\"" ++ String.join (s.toList.map quotedChar) ++ "\""

def bracketed (items : List String) : String := "[" ++ String.intercalate ", " items ++ "]"

def braced (items : List String) : String := "\x7b" ++ String.intercalate ", " items ++ "\x7d"

def quotedOption : Option String → String
  | none => "None"
  | some s => "Some(" ++ quoted s ++ ")"

end GrammarCheck.Text
