import GrammarCheck.Regex.Reader
import GrammarCheck.Regex.Joining
import GrammarCheck.Unicode.Naming

/-! The expression that a pattern stands for. Flags hold from where they are set to the end of the group around
them. Ignoring case closes each class under changes of case before it is negated or joined with another. -/

namespace GrammarCheck.Regex

open Unicode (RangeSet)

structure Flags where
  ignoreCase : Bool := false
  multiLine : Bool := false
  dotMatchesNewline : Bool := false
  swapGreed : Bool := false
  unicode : Bool := true
  carriageReturn : Bool := false
  deriving DecidableEq, Inhabited

namespace Flags

def change (flags : Flags) (c : FlagChange) : Flags :=
  match c.flag with
  | .ignoreCase => { flags with ignoreCase := c.on }
  | .multiLine => { flags with multiLine := c.on }
  | .dotMatchesNewline => { flags with dotMatchesNewline := c.on }
  | .swapGreed => { flags with swapGreed := c.on }
  | .unicode => { flags with unicode := c.on }
  | .carriageReturn => { flags with carriageReturn := c.on }
  | .ignoreSpace => flags

def changeAll (flags : Flags) (changes : List FlagChange) : Flags := changes.foldl change flags

end Flags

def AsciiClass.ranges : AsciiClass → RangeSet
  | .alnum => ⟨[(48, 57), (65, 90), (97, 122)]⟩
  | .alpha => ⟨[(65, 90), (97, 122)]⟩
  | .ascii => ⟨[(0, 127)]⟩
  | .blank => ⟨[(9, 9), (32, 32)]⟩
  | .cntrl => ⟨[(0, 31), (127, 127)]⟩
  | .digit => ⟨[(48, 57)]⟩
  | .graph => ⟨[(33, 126)]⟩
  | .lower => ⟨[(97, 122)]⟩
  | .print => ⟨[(32, 126)]⟩
  | .punct => ⟨[(33, 47), (58, 64), (91, 96), (123, 126)]⟩
  | .space => ⟨[(9, 13), (32, 32)]⟩
  | .upper => ⟨[(65, 90)]⟩
  | .word => ⟨[(48, 57), (65, 90), (95, 95), (97, 122)]⟩
  | .xdigit => ⟨[(48, 57), (65, 70), (97, 102)]⟩

def ShortClass.ranges (unicode : Bool) : ShortClass → RangeSet
  | .digit => if unicode then Unicode.digitSet else AsciiClass.digit.ranges
  | .space => if unicode then Unicode.whitespaceSet else AsciiClass.space.ranges
  | .word => if unicode then Unicode.wordSet else AsciiClass.word.ranges

namespace Flags

/-- Letters of ASCII and their other case. -/
def asciiCaseClosure (s : RangeSet) : RangeSet :=
  let letters := (List.range 26).flatMap fun i =>
    if s.contains (65 + i) || s.contains (97 + i) then [65 + i, 97 + i] else []
  s.union (.ofCodePoints letters)

def closeCase (flags : Flags) (s : RangeSet) : RangeSet :=
  if !flags.ignoreCase then s
  else if flags.unicode then s.caseClosure
  else asciiCaseClosure s

def complementIf (negated : Bool) (s : RangeSet) : RangeSet := if negated then s.complement else s

/-- Without Unicode a class consists of bytes, of which only the ASCII ones are characters. -/
def checkAscii (flags : Flags) (s : RangeSet) : Except Error RangeSet :=
  if flags.unicode || s.isAscii then .ok s else .error .classNotAscii

def checkByte (flags : Flags) (l : Literal) : Except Error Unit :=
  if !flags.unicode && l.byte && 128 ≤ l.char.toNat then .error .classNotAscii else .ok ()

/-- The set of a single character; a character whose case does not matter stands for all its cases. -/
def literalSet (flags : Flags) (c : Char) : RangeSet :=
  if !flags.ignoreCase then .single c.toNat
  else if flags.unicode then .ofCodePoints (Unicode.caseVariants c.toNat)
  else asciiCaseClosure (.single c.toNat)

def escapeSet (flags : Flags) (e : ClassEscape) : Except Error RangeSet :=
  match e with
  | .short kind negated => flags.checkAscii (complementIf negated (kind.ranges flags.unicode))
  | .unicode name negated =>
    if !flags.unicode then .error .classNotAscii
    else
      let found := match name with
        | .named n => Unicode.namedClass? n
        | .valued property value => Unicode.valuedClass? property value
      match found with
      | none => .error .className
      | some s => .ok (complementIf negated (flags.closeCase s))

def checkMember (flags : Flags) (l : Literal) : Except Error Unit :=
  if !flags.unicode && 128 ≤ l.char.toNat then .error .classNotAscii else .ok ()

mutual

def classSet (flags : Flags) : ClassAst → Except Error RangeSet
  | .empty => .ok .empty
  | .literal l => do
    flags.checkMember l
    pure (.single l.char.toNat)
  | .range low high => do
    flags.checkMember low
    flags.checkMember high
    pure (.interval low.char.toNat high.char.toNat)
  | .ascii kind negated => flags.checkAscii (complementIf negated (flags.closeCase kind.ranges))
  | .escape e => flags.escapeSet e
  | .bracket negated body => do
    let s ← classSet flags body
    flags.checkAscii (complementIf negated (flags.closeCase s))
  | .union items => do
    let sets ← classSets flags items
    pure (.unions sets)
  | .operation op first second => do
    let a ← classSet flags first
    let b ← classSet flags second
    let a := flags.closeCase a
    let b := flags.closeCase b
    match op with
    | .intersection => pure (a.inter b)
    | .difference => pure (a.diff b)
    | .symmetricDifference => pure (a.symmDiff b)

def classSets (flags : Flags) : List ClassAst → Except Error (List RangeSet)
  | [] => .ok []
  | item :: rest => do
    let s ← classSet flags item
    let sets ← classSets flags rest
    pure (s :: sets)

end

def newline : RangeSet := .single 10

def newlineOrReturn : RangeSet := ⟨[(10, 10), (13, 13)]⟩

def dotSet (flags : Flags) : Except Error RangeSet :=
  if !flags.unicode then .error .classNotAscii
  else if flags.dotMatchesNewline then .ok .all
  else if flags.carriageReturn then .ok newlineOrReturn.complement
  else .ok newline.complement

def look (flags : Flags) : Assertion → Look
  | .lineStart =>
    if !flags.multiLine then .textStart else if flags.carriageReturn then .lineStartCarriage else .lineStart
  | .lineEnd =>
    if !flags.multiLine then .textEnd else if flags.carriageReturn then .lineEndCarriage else .lineEnd
  | .textStart => .textStart
  | .textEnd => .textEnd
  | .wordBoundary => .wordBoundary (!flags.unicode)
  | .notWordBoundary => .notWordBoundary (!flags.unicode)
  | .wordStart => .wordStart (!flags.unicode)
  | .wordEnd => .wordEnd (!flags.unicode)
  | .wordStartHalf => .wordStartHalf (!flags.unicode)
  | .wordEndHalf => .wordEndHalf (!flags.unicode)

end Flags

namespace Ast

mutual

/-- The expression of a pattern, and the flags that hold after it. -/
def meaning (flags : Flags) : Ast → Except Error (Expr × Flags)
  | .empty => .ok (.empty, flags)
  | .flags changes => .ok (.empty, flags.changeAll changes)
  | .literal l => do
    flags.checkByte l
    pure (.ofSet (flags.literalSet l.char), flags)
  | .dot => do
    let s ← flags.dotSet
    pure (.ofSet s, flags)
  | .assertion a => .ok (.look (flags.look a), flags)
  | .escape e => do
    let s ← flags.escapeSet e
    pure (.ofSet s, flags)
  | .bracket negated body => do
    let s ← flags.classSet body
    let s ← flags.checkAscii (Flags.complementIf negated (flags.closeCase s))
    pure (.ofSet s, flags)
  | .repetition min max greedy body => do
    let (e, after) ← meaning flags body
    pure (.repeated min max (greedy != after.swapGreed) e, after)
  | .capture index body => do
    let (e, _) ← meaning flags body
    pure (.group index e, flags)
  | .group changes body => do
    let (e, _) ← meaning (flags.changeAll changes) body
    pure (e, flags)
  | .concat items => do
    let (es, after) ← meanings flags items
    pure (.sequence es, after)
  | .alternation branches => do
    let (es, after) ← meanings flags branches
    pure (.choice es, after)

def meanings (flags : Flags) : List Ast → Except Error (List Expr × Flags)
  | [] => .ok ([], flags)
  | item :: rest => do
    let (e, after) ← meaning flags item
    let (es, last) ← meanings after rest
    pure (e :: es, last)

end

end Ast

end GrammarCheck.Regex
