import GrammarCheck.Text.Split

/-! String literals of rule files: text between double quotes. A backslash before a double quote keeps the literal from
ending there, and such a pair stands for the double quote. A backslash anywhere else stands for itself. -/

namespace GrammarCheck.Text.Literal

/-- A double quote in a literal. -/
def escapedQuote : List Char := ['\\', '"']

/-- The characters up to the first double quote that is not escaped, and the text from there on. -/
def inner : List Char → List Char × List Char
  | [] => ([], [])
  | '\\' :: '"' :: rest =>
    let (text, after) := inner rest
    ('\\' :: '"' :: text, after)
  | c :: rest =>
    if c = '"' then ([], c :: rest)
    else
      let (text, after) := inner rest
      (c :: text, after)

/-- What the characters between the quotes stand for. -/
def value (text : List Char) : List Char := replaceAll escapedQuote ['"'] text

/-- Reads a literal with both its quotes, and gives its value and the text behind it. -/
def read : List Char → Option (List Char × List Char)
  | '"' :: rest =>
    match inner rest with
    | (text, '"' :: after) => some (value text, after)
    | _ => none
  | _ => none

/-- A text with its double quotes escaped. -/
def encode : List Char → List Char
  | [] => []
  | c :: rest => if c = '"' then escapedQuote ++ encode rest else c :: encode rest

/-- The literal for a text. -/
def write (text : List Char) : List Char := '"' :: encode text ++ ['"']

end GrammarCheck.Text.Literal
