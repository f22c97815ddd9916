import GrammarCheck.Regex.Joining
import Std.Data.TreeMap

/-! The room that a pattern takes. Its automaton is laid down twice, for reading forwards and for reading backwards,
with repetitions written out; either must stay within a limit. Characters are laid down byte by byte, and states with
equal arcs are shared within a set as far as a table with a fixed number of slots remembers them. -/

namespace GrammarCheck.Regex

open Unicode (RangeSet)

/-- The number of states laid down so far, and the bytes that they take. -/
structure Stock where
  states : Nat
  bytes : Nat
  deriving DecidableEq, Inhabited

/-- Laying down states, which fails beyond the limit. -/
abbrev Layout := StateT Stock Option

/-- An arc to a state, for the bytes of a range. -/
structure Arc where
  low : Nat
  high : Nat
  target : Nat
  deriving DecidableEq, Inhabited

/-- Runs of bytes joined where neighbours start alike: an arc, the arcs below it, and those beside it. -/
inductive ByteTree where
  | leaf
  | arc (low high : Nat) (below beside : ByteTree)
  deriving DecidableEq, Inhabited

namespace ByteTree

/-- Adds a run in front. -/
def insert : List (Nat × Nat) → ByteTree → ByteTree
  | [], tree => tree
  | (low, high) :: rest, .leaf => .arc low high (insert rest .leaf) .leaf
  | (low, high) :: rest, .arc l h below beside =>
    if low = l ∧ high = h then .arc l h (insert rest below) beside
    else .arc low high (insert rest .leaf) (.arc l h below beside)

def ofRuns (runs : List (List (Nat × Nat))) : ByteTree := runs.foldr insert .leaf

def isLeaf : ByteTree → Bool
  | .leaf => true
  | .arc .. => false

end ByteTree

namespace Layout

def limit : Nat := 10 * 1024 * 1024

def stateSize : Nat := 32

def arcSize : Nat := 8

def branchSize : Nat := 4

def grow (states bytes : Nat) : Layout Unit := fun s =>
  if s.bytes + bytes ≤ limit then some ((), ⟨s.states + states, s.bytes + bytes⟩) else none

/-- Adds a state, and gives its number. -/
def state (arcs : Nat) : Layout Nat := do
  let s ← get
  grow 1 (stateSize + arcSize * arcs)
  pure s.states

def plainStates (count : Nat) : Layout Unit := grow count (stateSize * count)

/-- Adds a branch to a fork. -/
def branch : Layout Unit := grow 0 branchSize

/-- Leads on from the last state of a piece: if that is a fork, this is a branch of it. -/
def link (fork : Bool) : Layout Unit := if fork then branch else pure ()

/-- One step of the 64-bit FNV-1a hash, on a number. -/
def mix (h : UInt64) (n : Nat) : UInt64 := (h ^^^ n.toUInt64) * 1099511628211

def slotStart : UInt64 := 14695981039346656037

/-- The slot of a state in a table of states, by all that its arcs hold. -/
def arcsSlot (arcs : List Arc) : Nat :=
  (arcs.foldl (fun h a => mix (mix (mix h a.low) a.high) a.target) slotStart).toNat % 10000

/-- The slot of an arc in a table of arcs. -/
def arcSlot (a : Arc) : Nat := (mix (mix (mix slotStart a.target) a.low) a.high).toNat % 1000

/-- What a table remembers: in each slot the state added last, with its key. -/
abbrev Memory (α : Type) := Std.TreeMap Nat (α × Nat)

/-- The state with given arcs, remembered or new. -/
def shared (arcs : List Arc) : StateT (Memory (List Arc)) Layout Nat := fun memory =>
  let slot := arcsSlot arcs
  let known := memory[slot]?.bind fun (key, id) => if key = arcs then some id else none
  match known with
  | some id => pure (id, memory)
  | none => do
    let id ← state arcs.length
    pure (id, memory.insert slot (arcs, id))

/-- The arcs at the top of a tree; what ends leads to a given state. -/
def treeArcs (target : Nat) : ByteTree → StateT (Memory (List Arc)) Layout (List Arc)
  | .leaf => pure []
  | .arc low high below beside => do
    let next ← if below.isLeaf then pure target else do
      let arcs ← treeArcs target below
      shared arcs
    let others ← treeArcs target beside
    pure (⟨low, high, next⟩ :: others)

/-- A set laid down forwards: states with the same arcs are shared. -/
def setForwards (tree : ByteTree) : Layout Unit := do
  let target ← state 0
  let _ ← (do shared (← treeArcs target tree)).run ∅
  pure ()

/-- The state from which a run of bytes leads backwards to a state, remembered or new. -/
def runBackwards : List (Nat × Nat) → Nat → StateT (Memory Arc) Layout Nat
  | [], target => pure target
  | (low, high) :: rest, target => do
    let memory ← get
    let key : Arc := ⟨low, high, target⟩
    let slot := arcSlot key
    match memory[slot]?.bind fun (known, id) => if known = key then some id else none with
    | some id => runBackwards rest id
    | none => do
      let id ← state 0
      set (memory.insert slot (key, id))
      runBackwards rest id

def runsBackwards (target : Nat) : List (List (Nat × Nat)) → StateT (Memory Arc) Layout Unit
  | [] => pure ()
  | run :: rest => do
    let _ ← runBackwards run target
    branch
    runsBackwards target rest

/-- A set laid down backwards: a fork into all runs, of which common last parts are shared. -/
def setBackwards (runs : List (List (Nat × Nat))) : Layout Unit := do
  let _ ← state 0
  let target ← state 0
  let _ ← (runsBackwards target runs).run ∅
  pure ()

def setStates (backwards : Bool) (s : RangeSet) : Layout Unit :=
  if s.isAscii then do
    let _ ← state 0
    let _ ← state s.ranges.length
    pure ()
  else if backwards then setBackwards s.byteRuns
  else setForwards (.ofRuns s.byteRuns)

/-- Texts cut where one of them ends. A text that ends before any other goes on cuts once. -/
def cutAtEnds : List (List Nat) → List (List (List Nat))
  | [] => [[]]
  | [] :: rest => [] :: cutAtEnds rest
  | text :: rest =>
    match cutAtEnds rest with
    | chunk :: others => (text :: chunk) :: others
    | [] => [[text]]

def dropRepeatedEnds : List (List Nat) → List (List Nat)
  | [] :: [] :: rest => dropRepeatedEnds ([] :: rest)
  | texts => texts

def after (first : Nat) (texts : List (List Nat)) : List (List Nat) :=
  texts.filterMap fun
    | b :: rest => if b = first then some rest else none
    | [] => none

/-- A choice between texts, told apart byte by byte; the number bounds their length. -/
def textChoice : Nat → List (List Nat) → Layout Unit
  | 0, _ => pure ()
  | fuel + 1, texts => do
    let chunks := cutAtEnds (dropRepeatedEnds texts)
    let filled := chunks.filter (!·.isEmpty)
    filled.forM fun chunk => do
      let firsts := (chunk.filterMap List.head?).eraseDups
      firsts.forM fun first => do
        let below := after first chunk
        if below.any (!·.isEmpty) then textChoice fuel below
      let _ ← state (if firsts.length = 1 then 0 else firsts.length)
    grow 1 (stateSize + branchSize * (filled.length + chunks.length - 1))

/-- A text for each branch, if the branches are texts. -/
def texts? : Expr → Option (List (List Char))
  | .text cs => some [cs]
  | .either a b => do
    let first ← texts? a
    let second ← texts? b
    pure (first ++ second)
  | _ => none

def textsStates (backwards : Bool) (texts : List (List Char)) : Layout Unit := do
  let _ ← state 0
  let bytes := texts.map fun cs =>
    let bytes := Unicode.textBytes cs
    if backwards then bytes.reverse else bytes
  textChoice ((bytes.map List.length).foldl Nat.max 0) bytes

/-- More copies of a piece after one that may end in a fork; tells whether the last one does. -/
def copies (piece : Layout Bool) : Nat → Bool → Layout Bool
  | 0, fork => pure fork
  | n + 1, fork => do
    let next ← piece
    link fork
    copies piece n next

def exactly (piece : Layout Bool) : Nat → Layout Bool
  | 0 => do
    let _ ← state 0
    pure false
  | n + 1 => do
    let fork ← piece
    copies piece n fork

/-- Copies that may be left out, each after a fork of its own. -/
def optional (piece : Layout Bool) : Nat → Bool → Layout Bool
  | 0, fork => pure fork
  | n + 1, fork => do
    let _ ← state 0
    let next ← piece
    link fork
    branch
    branch
    optional piece n next

def anyNumber (piece : Layout Bool) (takesSome : Bool) : Layout Bool :=
  if takesSome then do
    let _ ← state 0
    let fork ← piece
    branch
    link fork
    pure true
  else do
    let fork ← piece
    plainStates 3
    link fork
    grow 0 (4 * branchSize)
    pure false

def repetition (piece : Layout Bool) (takesSome : Bool) (min : Nat) (max : Option Nat) : Layout Bool :=
  match max with
  | none =>
    match min with
    | 0 => anyNumber piece takesSome
    | n + 1 => do
      let fork ← exactly piece (n + 1)
      let _ ← state 0
      link fork
      branch
      pure true
  | some max =>
    if min = max then exactly piece min
    else if min = 0 ∧ max = 1 then do
      let last ← optional piece 1 false
      plainStates 1
      link last
      pure false
    else do
      let fork ← exactly piece min
      plainStates 1
      let last ← optional piece (max - min) fork
      link last
      pure false

/-- Ends a piece, which may be a branch of a choice: with the second one the fork and the end of the choice are
laid down. -/
def close (index : Option Nat) (fork : Bool) : Layout Bool :=
  match index with
  | none => pure fork
  | some i => do
    if i = 1 then plainStates 2
    branch
    link fork
    pure false

/-- Lays down an expression, which may be a branch with an index; tells whether its last state is a fork. -/
def ofExpr (backwards : Bool) : Option Nat → Expr → Layout Bool
  | index, .either a b =>
    match index with
    | some i => do
      let _ ← ofExpr backwards (some i) a
      ofExpr backwards (some (i + 1)) b
    | none =>
      match texts? (.either a b) with
      | some texts => do
        textsStates backwards texts
        pure false
      | none => do
        let _ ← ofExpr backwards (some 0) a
        ofExpr backwards (some 1) b
  | index, .empty => do
    plainStates 1
    close index false
  | index, .text cs => do
    plainStates (Unicode.textBytes cs).length
    close index false
  | index, .chars set => do
    setStates backwards set
    close index false
  | index, .look _ => do
    plainStates 1
    close index false
  | index, .seq a b => do
    if backwards then
      let fork ← ofExpr backwards none b
      let last ← ofExpr backwards none a
      link fork
      close index last
    else
      let fork ← ofExpr backwards none a
      let last ← ofExpr backwards none b
      link fork
      close index last
  | index, .loop min max _ body => do
    let fork ← repetition (ofExpr backwards none body) body.takesSome min max
    close index fork
  | index, .group _ body => do
    if backwards then
      let fork ← ofExpr backwards none body
      close index fork
    else
      plainStates 1
      let fork ← ofExpr backwards none body
      plainStates 1
      link fork
      close index false

/-- The whole automaton: unless it is anchored it may first pass over any bytes. -/
def whole (backwards : Bool) (e : Expr) : Layout Unit := do
  if (if backwards then e.anchoredEnd else e.anchoredStart) then plainStates 1
  else grow 3 (3 * stateSize + arcSize + 2 * branchSize)
  let fork ← ofExpr backwards none (if backwards then e else .group 0 e)
  plainStates 1
  link fork

end Layout

/-- Does the pattern keep to the limit in both directions? -/
def Expr.fits (e : Expr) : Bool :=
  ((Layout.whole false e).run ⟨0, 0⟩).isSome && ((Layout.whole true e).run ⟨0, 0⟩).isSome

end GrammarCheck.Regex
