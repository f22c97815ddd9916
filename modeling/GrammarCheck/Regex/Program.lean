import GrammarCheck.Regex.Expr
import Std.Data.TreeSet

/-! Expressions as programs of small steps, in which a fork prefers its first way. The search follows preferred ways
first and enters each step at each place of the text once, so it takes no more entries than there are such pairs. -/

namespace GrammarCheck.Regex

open Unicode (RangeSet)

inductive Step where
  | accept
  | chars (set : RangeSet) (next : Nat)
  | look (condition : Look) (next : Nat)
  | save (slot : Nat) (next : Nat)
  | fork (first second : Nat)
  deriving Inhabited

structure Program where
  steps : Array Step
  start : Nat
  deriving Inhabited

namespace Program

abbrev Builder := StateM (Array Step)

def push (step : Step) : Builder Nat := fun steps => (steps.size, steps.push step)

def replace (i : Nat) (step : Step) : Builder Unit := fun steps => ((), steps.setIfInBounds i step)

def fork (greedy : Bool) (enter leave : Nat) : Step := if greedy then .fork enter leave else .fork leave enter

/-- One after another, from the last one back. -/
def exactly (body : Nat → Builder Nat) : Nat → Nat → Builder Nat
  | 0, next => pure next
  | n + 1, next => do
    let start ← body next
    exactly body n start

/-- Up to a number of times, from the last one back; each further time hangs on the one before. -/
def upTo (body : Nat → Builder Nat) (greedy : Bool) (leave : Nat) : Nat → Nat → Builder Nat
  | 0, next => pure next
  | n + 1, next => do
    let enter ← body next
    let start ← push (fork greedy enter leave)
    upTo body greedy leave n start

/-- One character after another. -/
def characters : List Char → Nat → Builder Nat
  | [], next => pure next
  | c :: rest, next => do
    let following ← characters rest next
    push (.chars (.single c.toNat) following)

/-- At least once: the way back in follows each round. -/
def oneOrMore (body : Nat → Builder Nat) (greedy : Bool) (next : Nat) : Builder Nat := do
  let again ← push .accept
  let enter ← body again
  replace again (fork greedy enter next)
  pure enter

/-- Any number of times. A body that may take no character is entered at most once without taking one. -/
def zeroOrMore (body : Nat → Builder Nat) (greedy takesSome : Bool) (next : Nat) : Builder Nat :=
  if !takesSome then do
    let enter ← oneOrMore body greedy next
    push (fork greedy enter next)
  else do
    let again ← push .accept
    let enter ← body again
    replace again (fork greedy enter next)
    pure again

/-- Lays out an expression before the step that follows it, and gives its first step. -/
def layOut : Expr → Nat → Builder Nat
  | .empty, next => pure next
  | .text cs, next => characters cs next
  | .chars set, next => push (.chars set next)
  | .look condition, next => push (.look condition next)
  | .seq a b, next => do
    let second ← layOut b next
    layOut a second
  | .either a b, next => do
    let first ← layOut a next
    let second ← layOut b next
    push (.fork first second)
  | .group index body, next => do
    let close ← push (.save (2 * index + 1) next)
    let inner ← layOut body close
    push (.save (2 * index) inner)
  | .loop min max greedy body, next =>
    match max with
    | some m => do
      let tail ← upTo (layOut body) greedy next (m - min) next
      exactly (layOut body) min tail
    | none =>
      match min with
      | 0 => zeroOrMore (layOut body) greedy body.takesSome next
      | k + 1 => do
        let tail ← oneOrMore (layOut body) greedy next
        exactly (layOut body) k tail

def ofExpr (e : Expr) : Program :=
  let built : Builder Nat := do
    let accept ← push .accept
    layOut e accept
  let (start, steps) := built.run #[]
  ⟨steps, start⟩

/-- A step to be entered at a place of the text, with the places saved on the way, the latest first. -/
structure Thread where
  step : Nat
  place : Nat
  saved : List (Nat × Nat)
  deriving Inhabited

def Thread.successors (t : Thread) (text : Array Char) : Step → List Thread
  | .accept => []
  | .chars set next =>
    if text[t.place]?.any set.hasChar then [{ t with step := next, place := t.place + 1 }] else []
  | .look condition next => if condition.holdsAt text t.place then [{ t with step := next }] else []
  | .save slot next => [{ t with step := next, saved := (slot, t.place) :: t.saved }]
  | .fork first second => [{ t with step := first }, { t with step := second }]

def Step.isAccept : Step → Bool
  | .accept => true
  | _ => false

/-- Pairs of a step and a place that a search has entered, as numbers. -/
abbrev Visited := Std.TreeSet Nat

/-- Runs threads, the preferred one first, and gives the first that is accepted. -/
def run (p : Program) (text : Array Char) : Nat → Visited → List Thread → Option Thread × Visited
  | 0, visited, _ => (none, visited)
  | _ + 1, visited, [] => (none, visited)
  | fuel + 1, visited, t :: others =>
    let key := t.step * (text.size + 1) + t.place
    if visited.contains key then run p text fuel visited others
    else
      let visited := visited.insert key
      match p.steps[t.step]? with
      | none => run p text fuel visited others
      | some step =>
        if Step.isAccept step then (some t, visited)
        else run p text fuel visited (t.successors text step ++ others)

/-- A match: where it starts and ends, and the places saved in it. -/
structure Found where
  start : Nat
  stop : Nat
  saved : List (Nat × Nat)
  deriving Inhabited

/-- The first match that starts at one of some places, in their order. -/
def firstFrom (p : Program) (text : Array Char) (visited : Visited) : List Nat → Option Found
  | [] => none
  | i :: rest =>
    match run p text (2 * p.steps.size * (text.size + 1) + 2) visited [⟨p.start, i, []⟩] with
    | (some t, _) => some ⟨i, t.place, t.saved⟩
    | (none, visited) => firstFrom p text visited rest

/-- The first match at or after a place. -/
def search (p : Program) (text : Array Char) (place : Nat) : Option Found :=
  firstFrom p text ∅ (List.range' place (text.size + 1 - place))

end Program

end GrammarCheck.Regex
