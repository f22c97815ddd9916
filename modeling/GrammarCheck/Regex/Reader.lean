import GrammarCheck.Regex.Ast
import GrammarCheck.Unicode.Classes

/-! Reading a pattern. Under the flag that ignores space, blanks and comments may stand between any two parts. The
recursion into groups and classes is bounded by the length of the pattern, of which every level takes a part. -/

namespace GrammarCheck.Regex

inductive Error where
  | unexpectedEnd
  | groupUnopened
  | groupUnclosed
  | groupName
  | lookAround
  | flag
  | nothingToRepeat
  | repetitionCount
  | escape
  | classUnclosed
  | classMember
  | classRange
  | className
  | classNotAscii
  | nestedTooDeeply
  | tooLarge
  deriving DecidableEq, Inhabited

/-- What is left of a pattern, with the groups and the names met so far. -/
structure Reader.State where
  rest : List Char
  ignoreSpace : Bool
  groups : Nat
  names : List (List Char × Nat)

abbrev Reader := StateT Reader.State (Except Error)

namespace Reader

def fail {α : Type} (e : Error) : Reader α := fun _ => .error e

def peek : Reader (Option Char) := fun s => .ok (s.rest.head?, s)

def peekSecond : Reader (Option Char) := fun s => .ok (s.rest.tail.head?, s)

def bump : Reader Unit := fun s => .ok ((), { s with rest := s.rest.tail })

def setRest (rest : List Char) : Reader Unit := fun s => .ok ((), { s with rest := rest })

def dropSpace : Bool → List Char → List Char
  | _, [] => []
  | true, c :: rest => dropSpace (c != '\n') rest
  | false, c :: rest =>
    if Unicode.isWhitespace c then dropSpace false rest
    else if c = '#' then dropSpace true rest
    else c :: rest

def skipSpace : Reader Unit := fun s =>
  .ok ((), if s.ignoreSpace then { s with rest := dropSpace false s.rest } else s)

def bumpSkip : Reader Unit := do
  bump
  skipSpace

/-- The character at hand, which has to be there. -/
def char (e : Error) : Reader Char := do
  match ← peek with
  | some c => pure c
  | none => fail e

def accept (phrase : String) : Reader Bool := fun s =>
  match Text.dropStart? phrase.toList s.rest with
  | some rest => .ok (true, { s with rest := rest })
  | none => .ok (false, s)

/-- The character after the one at hand; ignored blanks and one comment sign are passed over. -/
def peekBeyond : Reader (Option Char) := fun s =>
  let after := s.rest.tail
  if s.ignoreSpace then
    let next := after.dropWhile Unicode.isWhitespace
    match next with
    | '#' :: comment => .ok ((comment.dropWhile Unicode.isWhitespace).head?, s)
    | _ => .ok (next.head?, s)
  else .ok (after.head?, s)

def flagOfChar? : Char → Option Flag
  | 'i' => some .ignoreCase
  | 'm' => some .multiLine
  | 's' => some .dotMatchesNewline
  | 'U' => some .swapGreed
  | 'u' => some .unicode
  | 'R' => some .carriageReturn
  | 'x' => some .ignoreSpace
  | _ => none

/-- The changes that a run of flag letters makes, or nothing if it is not well formed: each letter stands once, and
at most one hyphen stands before further letters. -/
def flagChanges : List Char → Bool → List FlagChange → Option (List FlagChange)
  | [], _, changes => some changes.reverse
  | '-' :: rest, on, changes =>
    match on, rest with
    | false, _ => none
    | true, [] => none
    | true, _ => flagChanges rest false changes
  | c :: rest, on, changes =>
    match flagOfChar? c with
    | none => none
    | some flag =>
      if changes.any (·.flag = flag) then none else flagChanges rest on (⟨flag, on⟩ :: changes)

/-- The last setting of a flag among changes, if they mention it. -/
def setting? (flag : Flag) (changes : List FlagChange) : Option Bool :=
  (changes.find? (·.flag = flag)).map (·.on)

def isNameStart (c : Char) : Bool := c == '_' || Unicode.isAlphabetic c

def isNameChar (c : Char) : Bool :=
  c == '_' || c == '.' || c == '[' || c == ']' || Unicode.isAlphanumeric c

def isName : List Char → Bool
  | [] => false
  | first :: others => isNameStart first && others.all isNameChar

def newGroup : Reader Nat := fun s => .ok (s.groups + 1, { s with groups := s.groups + 1 })

/-- A group name up to its closing bracket. -/
def groupName : Reader (List Char) := do
  let s ← get
  let name := s.rest.takeWhile (· != '>')
  match s.rest.dropWhile (· != '>') with
  | [] => fail .groupName
  | _ :: after =>
    if isName name then
      setRest after
      pure name
    else fail .groupName

inductive GroupStart where
  | capture (index : Nat)
  | flagged (changes : List FlagChange)
  | setFlags (changes : List FlagChange)

def isFlagsEnd (c : Char) : Bool := c == ':' || c == ')'

/-- What a run of flag letters starts, by what stands behind it. -/
def flagged (letters : List Char) (last : Char) : Reader GroupStart :=
  match flagChanges letters true [] with
  | none => fail .flag
  | some changes =>
    if last == ')' then
      if changes.isEmpty then fail .nothingToRepeat else pure (.setFlags changes)
    else pure (.flagged changes)

/-- The flags of a group, up to the colon or the bracket behind them. -/
def groupFlags : Reader GroupStart := do
  let s ← get
  match s.rest.dropWhile (!isFlagsEnd ·) with
  | [] => fail .groupUnclosed
  | last :: after =>
    setRest after
    flagged (s.rest.takeWhile (!isFlagsEnd ·)) last

def addName (name : List Char) (index : Nat) : Reader Unit := do
  let s ← get
  if s.names.any (·.1 == name) then fail .groupName
  set { s with names := s.names ++ [(name, index)] }

/-- The start of a group, after its opening bracket. -/
def groupStart : Reader GroupStart := do
  skipSpace
  if (← accept "?=") || (← accept "?!") || (← accept "?<=") || (← accept "?<!") then fail .lookAround
  if ← accept "?P<" then
    let index ← newGroup
    named index
  else if ← accept "?<" then
    let index ← newGroup
    named index
  else if ← accept "?" then groupFlags
  else
    let index ← newGroup
    pure (.capture index)
where
  named (index : Nat) : Reader GroupStart := do
    let name ← groupName
    addName name index
    pure (.capture index)

def skipBlanks : Reader Unit := fun s => .ok ((), { s with rest := s.rest.dropWhile Unicode.isWhitespace })

/-- The characters of a kind at hand; ignored blanks and comments may stand between them. -/
def collect (isPart : Char → Bool) : Nat → List Char → Reader (List Char)
  | 0, found => pure found.reverse
  | fuel + 1, found => do
    match ← peek with
    | some c =>
      if isPart c then
        bumpSkip
        collect isPart fuel (c :: found)
      else pure found.reverse
    | none => pure found.reverse

def decimalValue (digits : List Char) : Nat := digits.foldl (fun n c => 10 * n + (c.toNat - 48)) 0

/-- A count between blanks; nothing if there is no digit. -/
def count : Reader (Option Nat) := do
  skipBlanks
  let s ← get
  let digits ← collect Char.isDigit s.rest.length []
  let _ ← collect Unicode.isWhitespace s.rest.length []
  if digits.isEmpty then pure none
  else
    let n := decimalValue digits
    if n < UInt32.size then pure (some n) else fail .repetitionCount

def required (n : Option Nat) : Reader Nat :=
  match n with
  | some n => pure n
  | none => fail .repetitionCount

/-- The bounds in braces, after the opening brace. -/
def counts : Reader (Nat × Option Nat) := do
  bumpSkip
  let _ ← char .repetitionCount
  let low ← count
  let bounds ← match ← peek with
    | some ',' => do
      bumpSkip
      let next ← char .repetitionCount
      if next = '}' then
        let low ← required low
        pure (low, none)
      else
        let low ← required low
        let high ← required (← count)
        pure (low, some high)
    | some _ => do
      let n ← required low
      pure (n, some n)
    | none => fail .repetitionCount
  if (← peek) != some '}' then fail .repetitionCount
  pure bounds

def isRepeatable : Ast → Bool
  | .empty => false
  | .flags _ => false
  | _ => true

/-- A question mark after a repetition makes it reluctant. -/
def greed : Reader Bool := do
  match ← peek with
  | some '?' => do
    bump
    pure false
  | _ => pure true

def isHexDigit (c : Char) : Bool := c.isDigit || ('a' ≤ c && c ≤ 'f') || ('A' ≤ c && c ≤ 'F')

def charOfHex (digits : List Char) : Reader Char :=
  let n := Unicode.Table.hexNumber digits
  if n ≤ 0x10FFFF && !(0xD800 ≤ n && n ≤ 0xDFFF) then pure (Char.ofNat n) else fail .escape

def hexDigits : Nat → List Char → Reader (List Char)
  | 0, found => pure found.reverse
  | n + 1, found => do
    let c ← char .unexpectedEnd
    if isHexDigit c then
      bumpSkip
      hexDigits n (c :: found)
    else fail .escape

/-- The characters up to a closing brace, after the character at hand; all have to be of a kind. -/
def braced (isPart : Char → Bool) (close : Reader Unit) : Nat → List Char → Reader (List Char)
  | 0, _ => fail .unexpectedEnd
  | fuel + 1, found => do
    bumpSkip
    let c ← char .unexpectedEnd
    if c = '}' then
      close
      pure found.reverse
    else if isPart c then braced isPart close fuel (c :: found)
    else fail .escape

/-- A character given by its code, after the letter that says so. -/
def hexLiteral (width : Nat) : Reader Literal := do
  bumpSkip
  let c ← char .unexpectedEnd
  if c = '{' then
    let s ← get
    let found ← braced isHexDigit bumpSkip s.rest.length []
    if found.isEmpty then fail .escape
    let value ← charOfHex found
    pure ⟨value, false⟩
  else
    let found ← hexDigits width []
    let value ← charOfHex found
    pure ⟨value, width == 2⟩

/-- A class name, its value after a sign of equality, and whether the sign negates. -/
def splitClassName (name : List Char) : ClassName × Bool :=
  match Text.splitAtFirst? ['!', '='] name with
  | some (property, value) => (.valued property value, true)
  | none =>
    match Text.splitAtFirst? [':'] name with
    | some (property, value) => (.valued property value, false)
    | none =>
      match Text.splitAtFirst? ['='] name with
      | some (property, value) => (.valued property value, false)
      | none => (.named name, false)

def unicodeClass (negated : Bool) : Reader ClassEscape := do
  bumpSkip
  let c ← char .unexpectedEnd
  if c = '{' then
    let s ← get
    let name ← braced (fun _ => true) bump s.rest.length []
    let (className, inverted) := splitClassName name
    pure (.unicode className (negated != inverted))
  else if c = '\\' then fail .className
  else
    bumpSkip
    pure (.unicode (.named [c]) negated)

def isMeta (c : Char) : Bool := "\\.+*?()|[]{}^$#&-~".toList.contains c

def isEscapable (c : Char) : Bool := isMeta c || (c.toNat < 128 && !c.isAlphanum && c != '<' && c != '>')

inductive Primitive where
  | literal (l : Literal)
  | dot
  | assertion (a : Assertion)
  | escape (e : ClassEscape)

def Primitive.toAst : Primitive → Ast
  | literal l => .literal l
  | dot => .dot
  | assertion a => .assertion a
  | escape e => .escape e

def isBoundaryNameChar (c : Char) : Bool := c.isAlpha || c == '-'

/-- The one-sided boundary that a name stands for, up to the closing brace. -/
def boundaryName (bound : Nat) : Reader Assertion := do
  let name ← collect isBoundaryNameChar bound []
  if (← peek) != some '}' then fail .escape
  bump
  match String.ofList name with
  | "start" => pure .wordStart
  | "end" => pure .wordEnd
  | "start-half" => pure .wordStartHalf
  | "end-half" => pure .wordEndHalf
  | _ => fail .escape

/-- What stands in braces after a word boundary: a name that makes it one-sided, or a count that is left alone. -/
def bracedBoundary : Reader Assertion := do
  let before ← get
  bumpSkip
  let c ← char .unexpectedEnd
  if isBoundaryNameChar c then boundaryName before.rest.length
  else
    set before
    pure .wordBoundary

def boundaryKind : Reader Assertion := do
  if (← peek) != some '{' then pure .wordBoundary else bracedBoundary

def literal (c : Char) : Primitive := .literal ⟨c, false⟩

/-- What a backslash and the characters after it stand for. -/
def escape : Reader Primitive := do
  bump
  let c ← char .unexpectedEnd
  match c with
  | 'x' => return .literal (← hexLiteral 2)
  | 'u' => return .literal (← hexLiteral 4)
  | 'U' => return .literal (← hexLiteral 8)
  | 'p' => return .escape (← unicodeClass false)
  | 'P' => return .escape (← unicodeClass true)
  | _ =>
    bump
    if isEscapable c then return literal c
    match c with
    | 'd' => return .escape (.short .digit false)
    | 'D' => return .escape (.short .digit true)
    | 's' => return .escape (.short .space false)
    | 'S' => return .escape (.short .space true)
    | 'w' => return .escape (.short .word false)
    | 'W' => return .escape (.short .word true)
    | 'a' => return literal '\x07'
    | 'f' => return literal '\x0c'
    | 't' => return literal '\t'
    | 'n' => return literal '\n'
    | 'r' => return literal '\r'
    | 'v' => return literal '\x0b'
    | 'A' => return .assertion .textStart
    | 'z' => return .assertion .textEnd
    | 'b' => return .assertion (← boundaryKind)
    | 'B' => return .assertion .notWordBoundary
    | '<' => return .assertion .wordStart
    | '>' => return .assertion .wordEnd
    | _ => fail .escape

def primitive : Reader Primitive := do
  let c ← char .unexpectedEnd
  match c with
  | '\\' => escape
  | '.' => do
    bump
    pure .dot
  | '^' => do
    bump
    pure (.assertion .lineStart)
  | '$' => do
    bump
    pure (.assertion .lineEnd)
  | c => do
    bump
    pure (literal c)

def asciiClassOfName? : String → Option AsciiClass
  | "alnum" => some .alnum
  | "alpha" => some .alpha
  | "ascii" => some .ascii
  | "blank" => some .blank
  | "cntrl" => some .cntrl
  | "digit" => some .digit
  | "graph" => some .graph
  | "lower" => some .lower
  | "print" => some .print
  | "punct" => some .punct
  | "space" => some .space
  | "upper" => some .upper
  | "word" => some .word
  | "xdigit" => some .xdigit
  | _ => none

/-- A bracketed class name between colons; anything else is left unread. -/
def namedAsciiClass? (text : List Char) : Option (ClassAst × List Char) := do
  let rest ← Text.dropStart? ['[', ':'] text
  let negated := rest.head? == some '^'
  let body := if negated then rest.tail else rest
  let after ← Text.dropStart? [':', ']'] (body.dropWhile (· != ':'))
  let kind ← asciiClassOfName? (String.ofList (body.takeWhile (· != ':')))
  pure (.ascii kind negated, after)

def asciiClass : Reader (Option ClassAst) := fun s =>
  match namedAsciiClass? s.rest with
  | some (item, after) => .ok (some item, { s with rest := after })
  | none => .ok (none, s)

def classItem : Reader Primitive := do
  let c ← char .classUnclosed
  if c = '\\' then escape
  else
    bump
    pure (literal c)

def memberOf : Primitive → Reader ClassAst
  | .literal l => pure (.literal l)
  | .escape e => pure (.escape e)
  | _ => fail .classMember

def boundOf : Primitive → Reader Literal
  | .literal l => pure l
  | _ => fail .classRange

/-- A member of a class, or a range of characters. -/
def classRange : Reader ClassAst := do
  let first ← classItem
  skipSpace
  let c ← char .classUnclosed
  let beyond ← peekBeyond
  if c != '-' || beyond == some ']' || beyond == some '-' then memberOf first
  else
    bumpSkip
    let _ ← char .classUnclosed
    let second ← classItem
    let low ← boundOf first
    let high ← boundOf second
    if high.char < low.char then fail .classRange
    pure (.range low high)

/-- Hyphens that open a class stand for themselves. -/
def leadingHyphens : Nat → List ClassAst → Reader (List ClassAst)
  | 0, items => pure items
  | fuel + 1, items => do
    let c ← char .classUnclosed
    if c = '-' then
      bumpSkip
      leadingHyphens fuel (.literal ⟨'-', false⟩ :: items)
    else pure items

/-- The opening of a class: whether it is negated, and the members that only count as such at its start. -/
def classStart : Reader (Bool × List ClassAst) := do
  bumpSkip
  let c ← char .classUnclosed
  if c = '^' then bumpSkip
  let s ← get
  let items ← leadingHyphens (s.rest.length + 1) []
  let next ← char .classUnclosed
  if items.isEmpty && next = ']' then
    bumpSkip
    let _ ← char .classUnclosed
    pure (c == '^', [.literal ⟨']', false⟩])
  else pure (c == '^', items)

def combine (pending : Option (SetOperation × ClassAst)) (items : List ClassAst) : ClassAst :=
  match pending with
  | none => .ofItems items.reverse
  | some (op, first) => .operation op first (.ofItems items.reverse)

/-- The members of a class up to and with its closing bracket; set operations group to the left. -/
def classBody : Nat → Option (SetOperation × ClassAst) → List ClassAst → Reader ClassAst
  | 0, _, _ => fail .classUnclosed
  | fuel + 1, pending, items => do
    skipSpace
    let c ← char .classUnclosed
    let second ← peekSecond
    match operationOf c second with
    | some op => do
      bump
      bump
      classBody fuel (some (op, combine pending items)) []
    | none =>
      if c = '[' then
        match ← asciiClass with
        | some item => classBody fuel pending (item :: items)
        | none => do
          let (negated, start) ← classStart
          let body ← classBody fuel none start
          classBody fuel pending (.bracket negated body :: items)
      else if c = ']' then
        bump
        pure (combine pending items)
      else
        let item ← classRange
        classBody fuel pending (item :: items)
where
  operationOf (c : Char) (second : Option Char) : Option SetOperation :=
    if second != some c then none
    else match c with
      | '&' => some .intersection
      | '-' => some .difference
      | '~' => some .symmetricDifference
      | _ => none

def bracketed : Reader Ast := do
  let (negated, items) ← classStart
  let s ← get
  let body ← classBody (2 * s.rest.length + 2) none items
  pure (.bracket negated body)

def repeated (items : List Ast) (min : Nat) (max : Option Nat) (greedy : Bool) : Reader (List Ast) :=
  match items with
  | item :: others =>
    if isRepeatable item then pure (.repetition min max greedy item :: others) else fail .nothingToRepeat
  | [] => fail .nothingToRepeat

def checkRepeatable : List Ast → Reader Unit
  | item :: _ => if isRepeatable item then pure () else fail .nothingToRepeat
  | [] => fail .nothingToRepeat

/-- A repetition sign applied to the last item read. -/
def repetition (sign : Char) (items : List Ast) : Reader (List Ast) := do
  checkRepeatable items
  match sign with
  | '{' =>
    let (low, high) ← counts
    bumpSkip
    let greedy ← greed
    if high.any (· < low) then fail .repetitionCount
    repeated items low high greedy
  | '?' =>
    bump
    repeated items 0 (some 1) (← greed)
  | '*' =>
    bump
    repeated items 0 none (← greed)
  | _ =>
    bump
    repeated items 1 none (← greed)

def isRepetitionSign (c : Char) : Bool := c == '?' || c == '*' || c == '+' || c == '{'

def closeGroup (outer : Bool) : Reader Unit := do
  if (← peek) != some ')' then fail .groupUnclosed
  bump
  modify fun s => { s with ignoreSpace := outer }

/-- A group from after its opening bracket, with a reader for what stands in it. -/
def group (inner : Reader Ast) : Reader Ast := do
  let outer := (← get).ignoreSpace
  match ← groupStart with
  | .setFlags changes => do
    modify fun s => { s with ignoreSpace := (setting? .ignoreSpace changes).getD outer }
    pure (.flags changes)
  | .capture index => do
    let body ← inner
    closeGroup outer
    pure (.capture index body)
  | .flagged changes => do
    modify fun s => { s with ignoreSpace := (setting? .ignoreSpace changes).getD outer }
    let body ← inner
    closeGroup outer
    pure (.group changes body)

/-- Branches up to the end of the pattern or to a closing bracket, which is left unread. Branches and items come
last first. -/
def alternation : Nat → List Ast → List Ast → Reader Ast
  | 0, _, _ => fail .unexpectedEnd
  | fuel + 1, branches, items => do
    skipSpace
    match ← peek with
    | none => pure (close branches items)
    | some c =>
      if c = ')' then pure (close branches items)
      else if c = '|' then
        bump
        alternation fuel (.ofItems items.reverse :: branches) []
      else if c = '(' then
        bump
        let item ← group (alternation fuel [] [])
        alternation fuel branches (item :: items)
      else if c = '[' then
        let item ← bracketed
        alternation fuel branches (item :: items)
      else if isRepetitionSign c then
        let items ← repetition c items
        alternation fuel branches items
      else
        let p ← primitive
        alternation fuel branches (p.toAst :: items)
where
  close (branches items : List Ast) : Ast := .ofBranches ((Ast.ofItems items.reverse :: branches).reverse)

def pattern : Reader Ast := do
  let s ← get
  let ast ← alternation (s.rest.length + 1) [] []
  if (← peek).isSome then fail .groupUnopened
  pure ast

end Reader

def nestLimit : Nat := 250

/-- A pattern with the names of its groups and their numbers. -/
def Ast.read (source : List Char) : Except Error (Ast × List (List Char × Nat)) :=
  match Reader.pattern.run ⟨source, false, 0, []⟩ with
  | .error e => .error e
  | .ok (ast, s) => if ast.depth ≤ nestLimit then .ok (ast, s.names) else .error .nestedTooDeeply

end GrammarCheck.Regex
