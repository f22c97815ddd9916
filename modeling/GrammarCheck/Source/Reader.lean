import GrammarCheck.Source.Form
import GrammarCheck.Text.Literal

/-! Reading rule files into forms. Blanks and comments may stand between any two parts; a comment runs from a number
sign to the end of its line. Of several ways to read a part the first that fits is taken for good. Keywords need not
be set off from what follows them. -/

namespace GrammarCheck.Source

structure Cursor where
  rest : List Char
  location : Location
  deriving DecidableEq, Inhabited

abbrev Reader := StateT Cursor Option

namespace Reader

variable {α β : Type}

def skipFrom (inComment : Bool) (text : List Char) (place : Location) : Cursor :=
  match text with
  | [] => ⟨[], place⟩
  | c :: rest =>
    if inComment then skipFrom (c != '\n' && c != '\r') rest (place.after c)
    else if c = ' ' || c = '\t' || c = '\r' || c = '\n' then skipFrom false rest (place.after c)
    else if c = '#' then skipFrom true rest (place.after c)
    else ⟨c :: rest, place⟩

/-- Passes over blanks and comments. -/
def skip : Reader Unit := fun c => some ((), skipFrom false c.rest c.location)

def place : Reader Location := fun c => some (c.location, c)

def word (w : String) : Reader Unit := fun c =>
  (Text.dropStart? w.toList c.rest).map fun rest => ((), ⟨rest, c.location.afterAll w.toList⟩)

/-- A word after blanks. -/
def symbol (w : String) : Reader Unit := do
  skip
  word w

def after (p : Reader α) : Reader α := do
  skip
  p

def optional (p : Reader α) : Reader (Option α) := fun c =>
  match after p c with
  | some (a, c) => some (some a, c)
  | none => some (none, c)

def manyUpTo (p : Reader α) : Nat → Reader (List α)
  | 0 => pure []
  | n + 1 => do
    match ← optional p with
    | none => pure []
    | some a => do
      let rest ← manyUpTo p n
      pure (a :: rest)

/-- As many as there are; each takes at least a character. -/
def many (p : Reader α) : Reader (List α) := fun c => manyUpTo p c.rest.length c

def many1 (p : Reader α) : Reader (List α) := do
  let first ← after p
  let rest ← many p
  pure (first :: rest)

def separated (separator : String) (p : Reader α) : Reader (List α) := do
  let first ← after p
  let rest ← many do
    word separator
    after p
  pure (first :: rest)

def choice (ps : List (Reader α)) : Reader α := fun c => ps.firstM fun p => p c

def oneOf (words : List (String × α)) : Reader α :=
  choice (words.map fun (w, a) => do
    word w
    pure a)

def takeWhile1 (p : Char → Bool) : Reader String := fun c =>
  let taken := c.rest.takeWhile p
  if taken.isEmpty then none
  else some (String.ofList taken, ⟨c.rest.dropWhile p, c.location.afterAll taken⟩)

def isIdentChar (c : Char) : Bool := c.isAlphanum || c == '_' || c == '-' || c == '.'

def ident : Reader String := takeWhile1 isIdentChar

def number : Reader String := takeWhile1 Char.isDigit

def string : Reader String := fun c =>
  match Text.Literal.read c.rest with
  | none => none
  | some (text, rest) =>
    let taken := c.rest.take (c.rest.length - rest.length)
    some (String.ofList text, ⟨rest, c.location.afterAll taken⟩)

def value : Reader String :=
  choice [string, number, oneOf [("*", "*")], ident]

def key : Reader Key :=
  oneOf [("text", .text), ("lemma", .base), ("pos", .tag), ("min", .min), ("max", .max), ("skip", .skip),
    ("ref", .ref), ("space", .space)]

def operator : Reader Operator :=
  oneOf [("!~", .notLike), ("!=", .notEqual), ("~", .like), ("=", .equal)]

def scope : Reader Scope :=
  oneOf [("except_next", .next), ("except_prev", .previous), ("except", .current)]

def setting : Reader Attribute := do
  let location ← place
  let key ← key
  let op ← after operator
  let value ← after value
  pure (.setting key op value location)

def flag : Reader Attribute := do
  let location ← place
  let make ← oneOf [("not", Attribute.negation), ("case", Attribute.caseFlag)]
  pure (make location)

def bareText : Reader Attribute := do
  let location ← place
  let text ← string
  pure (.bareText text location)

/-- Attributes; the number bounds the exceptions within one another. -/
def condition : Nat → Reader Attribute
  | 0 => fun _ => none
  | n + 1 =>
    choice [
      do
        let location ← place
        let scope ← scope
        symbol "("
        let conditions ← separated "," (condition n)
        symbol ")"
        pure (.exception scope conditions location),
      setting, flag, bareText]

def anyAttribute : Reader Attribute := fun c => condition (c.rest.length + 1) c

def token : Reader TokenForm := do
  let location ← place
  word "["
  let attributes ← optional (separated "," anyAttribute)
  symbol "]"
  pure ⟨attributes.getD [], location⟩

def tokenGroup : Reader ItemForm := do
  let first ← token
  let others ← many do
    word "&"
    after token
  pure (.tokens first others)

def phraseReference : Reader ItemForm := do
  let location ← place
  word "@"
  let name ← after ident
  pure (.phrase name location)

/-- Pattern items; the number bounds the blocks within one another. -/
def item : Nat → Reader ItemForm
  | 0 => fun _ => none
  | n + 1 =>
    choice [
      do
        let location ← place
        word "marker"
        symbol "\x7b"
        let items ← many1 (item n)
        symbol "\x7d"
        pure (.marker items location),
      do
        let location ← place
        let negate ← oneOf [("unify!", true), ("unify", false)]
        symbol "("
        let features ← separated "," ident
        symbol ")"
        symbol "\x7b"
        let items ← many1 (item n)
        symbol "\x7d"
        pure (.unify negate features items location),
      phraseReference, tokenGroup]

def anyItem : Reader ItemForm := fun c => item (c.rest.length + 1) c

def pattern : Reader PatternForm := do
  word "pattern"
  let caseFlag ← optional (word "case")
  symbol "\x7b"
  let items ← many1 anyItem
  symbol "\x7d"
  pure ⟨caseFlag.isSome, items⟩

/-- A keyword, a string and a semicolon. -/
def labelled (keyword : String) : Reader String := do
  word keyword
  let text ← after string
  symbol ";"
  pure text

def keyed (keys : List (String × α)) : Reader (α × String) := do
  let key ← oneOf keys
  symbol "="
  let text ← after string
  pure (key, text)

def exampleForm : Reader ExampleForm := do
  let location ← place
  word "example"
  let kind ← after (oneOf [("incorrect", .incorrect), ("correct", .correct), ("untouched", .untouched),
    ("ambiguous", .ambiguous)])
  let text ← after string
  let attributes ← many (keyed [("correction", .correction), ("in", .input), ("out", .output)])
  symbol ";"
  pure ⟨kind, text, attributes, location⟩

def overlap : Reader RuleEntry := do
  word "overlap"
  symbol ";"
  pure .overlap

def ruleEntry : Reader RuleEntry :=
  choice [RuleEntry.pattern <$> pattern, RuleEntry.message <$> labelled "message",
    RuleEntry.short <$> labelled "short", RuleEntry.suggestion <$> labelled "suggestion", overlap,
    RuleEntry.sample <$> exampleForm]

def located (p : Reader α) : Reader (α × Location) := do
  let location ← place
  let a ← p
  pure (a, location)

def rule : Reader RuleForm := do
  let location ← place
  word "rule"
  let id ← optional (located ident)
  let description ← optional string
  symbol "\x7b"
  let entries ← many ruleEntry
  symbol "\x7d"
  pure ⟨id, description, entries, location⟩

def group : Reader Form := do
  word "group"
  let id ← after ident
  let description ← optional string
  symbol "\x7b"
  let rules ← many rule
  symbol "\x7d"
  pure (.group id description rules)

def actionKind : Reader ActionKind :=
  oneOf [("replace", .replace), ("add", .add), ("remove", .remove), ("filter", .filter), ("unify", .unify),
    ("immunize", .immunize), ("ignore_spelling", .ignoreSpelling)]

def actionAttribute : Reader ActionAttribute := do
  let location ← place
  let key ← oneOf [("pos", .tag), ("lemma", .base), ("replace", .replacement)]
  let op ← after operator
  let value ← after string
  pure ⟨key, op, value, location⟩

def action : Reader ActionForm := do
  let location ← place
  word "action"
  let kind ← after actionKind
  let attributes ← many actionAttribute
  symbol ";"
  pure ⟨kind, attributes, location⟩

def reading : Reader DisambiguationEntry := do
  word "wd"
  let attributes ← many (keyed [("lemma", .base), ("pos", .tag)])
  symbol ";"
  pure (.reading attributes)

def disambiguationEntry : Reader DisambiguationEntry :=
  choice [DisambiguationEntry.pattern <$> pattern, DisambiguationEntry.action <$> action, reading,
    DisambiguationEntry.sample <$> exampleForm]

def disambiguation : Reader DisambiguationForm := do
  let location ← place
  word "disambig"
  let id ← after ident
  let description ← optional string
  symbol "\x7b"
  let entries ← many disambiguationEntry
  symbol "\x7d"
  pure ⟨id, description, entries, location⟩

def featureType : Reader (String × List Attribute) := do
  let name ← ident
  symbol "="
  let attributes ← separated "," anyAttribute
  symbol ";"
  pure (name, attributes)

def feature : Reader FeatureForm := do
  let location ← place
  word "unification"
  let name ← after ident
  symbol "\x7b"
  let types ← many featureType
  symbol "\x7d"
  pure ⟨name, types, location⟩

def phrase : Reader PhraseForm := do
  let location ← place
  word "phrase"
  let name ← after ident
  symbol "\x7b"
  let alternatives ← separated "|" (many1 anyItem)
  symbol "\x7d"
  pure ⟨name, alternatives, location⟩

def form : Reader Form :=
  choice [Form.feature <$> feature, Form.phrase <$> phrase, group, Form.rule <$> rule,
    Form.disambiguation <$> disambiguation]

def file : Reader (List Form) := do
  let forms ← many form
  skip
  pure forms

end Reader

/-- The forms of a rule file, if it consists of forms to its end. -/
def readForms (source : String) : Option (List Form) :=
  match Reader.file ⟨source.toList, .start⟩ with
  | some (forms, ⟨[], _⟩) => some forms
  | _ => none

end GrammarCheck.Source
