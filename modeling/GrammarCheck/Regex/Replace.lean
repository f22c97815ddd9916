import GrammarCheck.Regex.Basic
import GrammarCheck.Regex.Program
import GrammarCheck.Text.Number

/-! Replacing matches. In a replacement a dollar sign and a number or a name, which may stand in braces, give the text
of a group, and two dollar signs give one; a group that is not there or took no part gives nothing. -/

namespace GrammarCheck.Regex

inductive Part where
  | text (c : Char)
  | group (name : String)
  deriving DecidableEq, Inhabited

def isReferenceChar (c : Char) : Bool := c.isAlphanum || c == '_'

/-- The group that the text after a dollar sign names, and what follows the name. -/
def groupReference? (rest : List Char) : Option (String × List Char) :=
  match rest with
  | '\x7b' :: inner =>
    match inner.dropWhile (· != '\x7d') with
    | _ :: after => some (String.ofList (inner.takeWhile (· != '\x7d')), after)
    | [] => none
  | _ =>
    let name := rest.takeWhile isReferenceChar
    if name.isEmpty then none else some (String.ofList name, rest.dropWhile isReferenceChar)

/-- The parts of a replacement; the number bounds the characters left to read. -/
def replacementParts : Nat → List Char → List Part
  | 0, _ => []
  | _, [] => []
  | n + 1, '$' :: '$' :: rest => .text '$' :: replacementParts n rest
  | n + 1, '$' :: rest =>
    match groupReference? rest with
    | some (name, after) => .group name :: replacementParts n after
    | none => .text '$' :: replacementParts n rest
  | n + 1, c :: rest => .text c :: replacementParts n rest

def slice (text : Array Char) (start stop : Nat) : List Char := (text.extract start stop).toList

/-- The text that a group took in a match. -/
def groupText (text : Array Char) (m : Program.Found) (index : Nat) : List Char :=
  if index = 0 then slice text m.start m.stop
  else match m.saved.lookup (2 * index), m.saved.lookup (2 * index + 1) with
    | some start, some stop => slice text start stop
    | _, _ => []

def expand (r : Regex) (text : Array Char) (m : Program.Found) : Part → List Char
  | .text c => [c]
  | .group name =>
    match Text.count? name with
    | some index => groupText text m index
    | none => ((r.groups.lookup name).map (groupText text m)).getD []

def program (r : Regex) : Program := .ofExpr r.expr

/-- The matches from a place on, left to right. Matches do not overlap, and an empty one does not touch the one
before it. -/
def matchesFrom (p : Program) (text : Array Char) : Nat → Nat → Option Nat → List Program.Found
  | 0, _, _ => []
  | fuel + 1, place, lastStop =>
    match p.search text place with
    | none => []
    | some m =>
      if m.start = m.stop ∧ lastStop = some m.stop then
        if place < text.size then matchesFrom p text fuel (place + 1) lastStop else []
      else m :: matchesFrom p text fuel m.stop (some m.stop)

def splice (r : Regex) (text : Array Char) (parts : List Part) (place : Nat) : List Program.Found → List Char
  | [] => slice text place text.size
  | m :: rest => slice text place m.start ++ parts.flatMap (r.expand text m) ++ splice r text parts m.stop rest

def parts (replacement : String) : List Part := replacementParts replacement.length replacement.toList

/-- Replaces every match. -/
def replaceAll (r : Regex) (text replacement : String) : String :=
  let chars := text.toList.toArray
  String.ofList (r.splice chars (parts replacement) 0
    (matchesFrom r.program chars (2 * chars.size + 2) 0 none))

/-- Replaces the first match. -/
def replaceFirst (r : Regex) (text replacement : String) : String :=
  let chars := text.toList.toArray
  String.ofList (r.splice chars (parts replacement) 0 (r.program.search chars 0).toList)

end GrammarCheck.Regex
