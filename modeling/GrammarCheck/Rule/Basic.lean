import GrammarCheck.Element
import GrammarCheck.Template

/-! Compiled rules: the elements of the pattern in order, the part of them that is reported, and the texts of the
report. -/

namespace GrammarCheck

structure Rule where
  id : String
  subId : String
  description : String
  elements : List Element
  /-- How many elements come from each position of the pattern. -/
  elementCounts : List Nat
  /-- The elements whose tokens are reported. -/
  marker : Span
  message : Template
  shortMessage : Option Template
  suggestions : List Template
  /-- Does the rule stand beside others that come from the same definition? -/
  disjunctive : Bool
  allowOverlap : Bool
  features : FeatureTable
  examples : List ExampleDef
  location : Location
  deriving Inhabited

namespace Rule

def fullId (r : Rule) : String := r.id ++ "[" ++ r.subId ++ "]"

def positionCount (r : Rule) : Nat := r.elementCounts.length

def markerElements (r : Rule) : List Element := (r.elements.drop r.marker.start).take r.marker.size

/-- The lowercase words, or base forms, that every match needs. -/
def requiredWords (r : Rule) (bases : Bool) : List String :=
  ((r.elements.filterMap (·.requiredWord?)).filter (·.2 == bases)).map (·.1)

/-- The number of tokens that elements take with the gaps between them, if it is always the same. The sum is kept in
64 bits. -/
def fixedLength? : List Element → Option Nat
  | [] => some 0
  | e :: rest => do
    let own ← match e.max with
      | .upTo max => if max = e.min then some max else none
      | .unbounded => none
    if !rest.isEmpty && e.skip != .upTo 0 then none
    else
      let others ← fixedLength? rest
      pure ((own + others) % UInt64.size)

/-- A gap is open between elements. -/
theorem gap_open_iff {e : Element} {rest : List Element} :
    (!rest.isEmpty && e.skip != .upTo 0) = true ↔ ¬(rest = [] ∨ e.skip = .upTo 0) := by
  simp [not_or]

/-- Elements have a length if the first one has a fixed count, no gap stands behind it, and the others have one. -/
theorem fixedLength?_cons (e : Element) (rest : List Element) :
    fixedLength? (e :: rest) =
      if e.max = .upTo e.min ∧ (rest = [] ∨ e.skip = .upTo 0) then
        (fixedLength? rest).map fun n => (e.min + n) % UInt64.size
      else none := by
  rw [fixedLength?]
  simp only [gap_open_iff]
  cases hmax : e.max with
  | unbounded => simp
  | upTo max =>
    by_cases hmin : max = e.min
    · subst hmin
      by_cases hgap : rest = [] ∨ e.skip = .upTo 0
      · simp only [hgap]
        cases fixedLength? rest <;> rfl
      · simp [hgap]
    · simp [hmin]

theorem fixedLength?_lt {elements : List Element} {n : Nat} (h : fixedLength? elements = some n) : n < UInt64.size := by
  cases elements with
  | nil =>
    obtain rfl := Option.some.inj h
    decide
  | cons e rest =>
    rw [fixedLength?_cons, Option.ite_none_right_eq_some] at h
    obtain ⟨-, others, -, rfl⟩ := And.imp_right Option.map_eq_some_iff.mp h
    exact Nat.mod_lt _ (by decide)

def fixedMarkerLength? (r : Rule) : Option Nat := fixedLength? r.markerElements

/-- The number of marked elements that belong to a group of agreement. -/
def markerAgreementCount (r : Rule) : Nat := r.markerElements.countP (·.agreement.isSome)

/-- Can the rule be left out for a sentence because a word that every match needs is not there? -/
def canBeIgnored (r : Rule) (index : WordIndex) : Bool :=
  !(index.hasWords (r.requiredWords false) && index.hasBases (r.requiredWords true))

end Rule

end GrammarCheck
