/-! The structure of a written pattern, before flags are applied and classes are looked up. -/

namespace GrammarCheck.Regex

inductive Flag where
  | ignoreCase
  | multiLine
  | dotMatchesNewline
  | swapGreed
  | unicode
  | carriageReturn
  | ignoreSpace
  deriving DecidableEq, Inhabited

structure FlagChange where
  flag : Flag
  on : Bool
  deriving DecidableEq, Inhabited

inductive AsciiClass where
  | alnum
  | alpha
  | ascii
  | blank
  | cntrl
  | digit
  | graph
  | lower
  | print
  | punct
  | space
  | upper
  | word
  | xdigit
  deriving DecidableEq, Inhabited

inductive ShortClass where
  | digit
  | space
  | word
  deriving DecidableEq, Inhabited

inductive ClassName where
  | named (name : List Char)
  | valued (property value : List Char)
  deriving DecidableEq, Inhabited

inductive SetOperation where
  | intersection
  | difference
  | symmetricDifference
  deriving DecidableEq, Inhabited

/-- A character, and whether it was written as two hexadecimal digits and so may stand for a byte. -/
structure Literal where
  char : Char
  byte : Bool
  deriving DecidableEq, Inhabited

/-- Classes that may stand by themselves and in brackets. -/
inductive ClassEscape where
  | short (kind : ShortClass) (negated : Bool)
  | unicode (name : ClassName) (negated : Bool)
  deriving DecidableEq, Inhabited

inductive ClassAst where
  | empty
  | literal (l : Literal)
  | range (low high : Literal)
  | ascii (kind : AsciiClass) (negated : Bool)
  | escape (e : ClassEscape)
  | bracket (negated : Bool) (body : ClassAst)
  | union (items : List ClassAst)
  | operation (op : SetOperation) (first second : ClassAst)
  deriving Inhabited

inductive Assertion where
  | lineStart
  | lineEnd
  | textStart
  | textEnd
  | wordBoundary
  | notWordBoundary
  | wordStart
  | wordEnd
  | wordStartHalf
  | wordEndHalf
  deriving DecidableEq, Inhabited

inductive Ast where
  | empty
  | flags (changes : List FlagChange)
  | literal (l : Literal)
  | dot
  | assertion (a : Assertion)
  | escape (e : ClassEscape)
  | bracket (negated : Bool) (body : ClassAst)
  | repetition (min : Nat) (max : Option Nat) (greedy : Bool) (body : Ast)
  | capture (index : Nat) (body : Ast)
  | group (changes : List FlagChange) (body : Ast)
  | concat (items : List Ast)
  | alternation (branches : List Ast)
  deriving Inhabited

namespace ClassAst

mutual

/-- Levels of nesting below a class. -/
def depth : ClassAst → Nat
  | .bracket _ body => body.depth + 1
  | .union items => depthList items + 1
  | .operation _ first second => max first.depth second.depth + 1
  | .empty => 0
  | .literal _ => 0
  | .range _ _ => 0
  | .ascii _ _ => 0
  | .escape _ => 0

def depthList : List ClassAst → Nat
  | [] => 0
  | item :: rest => max item.depth (depthList rest)

end

def ofItems : List ClassAst → ClassAst
  | [] => .empty
  | [item] => item
  | items => .union items

end ClassAst

namespace Ast

mutual

/-- Levels of nesting below a pattern. -/
def depth : Ast → Nat
  | .bracket _ body => body.depth + 1
  | .repetition _ _ _ body => body.depth + 1
  | .capture _ body => body.depth + 1
  | .group _ body => body.depth + 1
  | .concat items => depthList items + 1
  | .alternation branches => depthList branches + 1
  | .empty => 0
  | .flags _ => 0
  | .literal _ => 0
  | .dot => 0
  | .assertion _ => 0
  | .escape _ => 0

def depthList : List Ast → Nat
  | [] => 0
  | item :: rest => max item.depth (depthList rest)

end

def ofItems : List Ast → Ast
  | [] => .empty
  | [item] => item
  | items => .concat items

def ofBranches : List Ast → Ast
  | [branch] => branch
  | branches => .alternation branches

end Ast

end GrammarCheck.Regex
