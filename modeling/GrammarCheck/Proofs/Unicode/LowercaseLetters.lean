import GrammarCheck.Unicode.Bytes
import GrammarCheck.Unicode.Naming
import Mathlib.Data.List.Chain

/-! The class of lowercase letters. Its table lists ranges that ascend with gaps between them and hold no surrogates, so
that putting the ranges of the class together gives the table again. -/

namespace GrammarCheck.Unicode

namespace RangeSet

/-- A range, and another one behind a gap. -/
def LiesBefore (a b : Nat × Nat) : Prop := a.1 ≤ a.2 ∧ a.2 + 1 < b.1

instance : DecidableRel LiesBefore := fun _ _ => inferInstanceAs (Decidable (_ ∧ _))

instance : Trans LiesBefore LiesBefore LiesBefore where
  trans := fun ⟨hle, hlt⟩ ⟨hle', hlt'⟩ => ⟨hle, by omega⟩

theorem absorb_of_isChain {first : Nat × Nat} {rest : List (Nat × Nat)} (h : (first :: rest).IsChain LiesBefore) :
    absorb first rest = first :: rest := by
  induction rest generalizing first with
  | nil => rfl
  | cons next rest ih =>
    obtain ⟨hnext, hrest⟩ := List.isChain_cons_cons.mp h
    have hgap : ¬next.1 ≤ first.2 + 1 := Nat.not_le_of_lt hnext.2
    rw [absorb, if_neg hgap, ih hrest]

theorem ofRanges_of_isChain {ranges : List (Nat × Nat)} (h : ranges.IsChain LiesBefore) : ofRanges ranges = ⟨ranges⟩ := by
  have hsorted : ranges.Pairwise fun a b => decide (a.1 ≤ b.1) = true := by
    refine h.pairwise.imp fun {a b} hab => ?_
    have hlow : a.1 ≤ a.2 := hab.1
    have hgap : a.2 + 1 < b.1 := hab.2
    exact decide_eq_true (by omega)
  rw [ofRanges, List.mergeSort_of_pairwise hsorted]
  cases ranges with
  | nil => rfl
  | cons first rest => exact congrArg RangeSet.mk (absorb_of_isChain h)

theorem unions_singleton {s : RangeSet} (h : s.ranges.IsChain LiesBefore) : unions [s] = s := by
  rw [unions, List.flatMap_singleton, ofRanges_of_isChain h]

/-- A set without surrogates consists of scalar values. -/
theorem scalars_eq_self {s : RangeSet} (h : ∀ r ∈ s.ranges, r.2 < 0xD800 ∨ 0xDFFF < r.1) : s.scalars = s := by
  have hkept : s.scalars.ranges = s.ranges.flatMap fun r => [r] := List.flatMap_congr fun r hr => if_pos (h r hr)
  rw [List.flatMap_singleton'] at hkept
  exact congrArg RangeSet.mk hkept

theorem onlyChar?_eq_none {s : RangeSet} (h : 2 ≤ s.scalars.ranges.length) : s.onlyChar? = none := by
  unfold onlyChar?
  split
  · rename_i low high hranges
    rw [hranges] at h
    exact absurd h (Nat.not_succ_le_self 1)
  · rfl

end RangeSet

/-- The ranges of a table that is held as a list of characters. -/
def rangesOf (table : List Char) : List (Nat × Nat) :=
  (((Text.splitAtChar '\n' table).flatMap (Text.splitAtChar ' ')).filter (!·.isEmpty)).flatMap Table.itemRanges

def lowercaseLetters : RangeSet := Category.lowercaseLetter.ranges

/-- A character of the general category Ll. -/
def isLowercaseLetter (c : Char) : Bool := lowercaseLetters.hasChar c

/-- The table is opened as a list of characters first, since comparing strings as such takes too long. -/
theorem lowercaseLetters_of_table {table : List Char} (h : Category.lowercaseLetter.table = String.ofList table) :
    lowercaseLetters = ⟨rangesOf table⟩ := by
  rw [lowercaseLetters, Category.ranges, RangeSet.ofTable, Table.items, h, String.toList_ofList, rangesOf]
  all_goals exact fun h => nomatch h

/-- Ranges in order with gaps between them, more than one, and no surrogate in them. -/
def isTidy (ranges : List (Nat × Nat)) : Bool :=
  decide (ranges.IsChain RangeSet.LiesBefore) && ranges.all (fun r => decide (r.2 < 0xD800 ∨ 0xDFFF < r.1)) &&
    Nat.ble 2 ranges.length

theorem isTidy_iff {ranges : List (Nat × Nat)} : isTidy ranges = true ↔
    ranges.IsChain RangeSet.LiesBefore ∧ (∀ r ∈ ranges, r.2 < 0xD800 ∨ 0xDFFF < r.1) ∧ 2 ≤ ranges.length := by
  simp only [isTidy, Bool.and_eq_true, List.all_eq_true, decide_eq_true_eq, Nat.ble_eq, and_assoc]

set_option maxRecDepth 20000 in
theorem isTidy_lowercaseLetters : isTidy lowercaseLetters.ranges = true := by
  obtain ⟨table, htable, htidy⟩ : ∃ table, Category.lowercaseLetter.table = String.ofList table ∧
      isTidy (rangesOf table) = true := ⟨_, rfl, by decide +kernel⟩
  rw [lowercaseLetters_of_table htable]
  exact htidy

theorem scalars_lowercaseLetters : lowercaseLetters.scalars = lowercaseLetters := by
  obtain ⟨-, hscalar, -⟩ := isTidy_iff.mp isTidy_lowercaseLetters
  exact RangeSet.scalars_eq_self hscalar

theorem onlyChar?_lowercaseLetters : lowercaseLetters.onlyChar? = none := by
  obtain ⟨-, -, hmany⟩ := isTidy_iff.mp isTidy_lowercaseLetters
  rw [← scalars_lowercaseLetters] at hmany
  exact RangeSet.onlyChar?_eq_none hmany

set_option maxRecDepth 20000 in
theorem isLowercaseLetter_ascii : ∀ n < 128, isLowercaseLetter (Char.ofNat n) = (Char.ofNat n).isLower := by
  obtain ⟨table, htable, hascii⟩ : ∃ table, Category.lowercaseLetter.table = String.ofList table ∧
      ∀ n < 128, RangeSet.hasChar ⟨rangesOf table⟩ (Char.ofNat n) = (Char.ofNat n).isLower := ⟨_, rfl, by decide +kernel⟩
  intro n hn
  rw [isLowercaseLetter, lowercaseLetters_of_table htable]
  exact hascii n hn

theorem property?_Ll : property? ['l', 'l'] = none := by decide +kernel

theorem category?_Ll : category? ['l', 'l'] = some (.ofCategories [.lowercaseLetter]) := by
  have hentry : categoryNames.find? (·.1.any (sameName ['l', 'l'])) =
      some (["Ll", "Lowercase_Letter"], [.lowercaseLetter]) := by decide +kernel
  unfold category?
  rw [hentry]
  rfl

/-- The name of the category stands for its table. -/
theorem namedClass?_Ll : namedClass? ['L', 'l'] = some lowercaseLetters := by
  have hloose : looseName ['L', 'l'] = ['l', 'l'] := by decide +kernel
  obtain ⟨hchain, -, -⟩ := isTidy_iff.mp isTidy_lowercaseLetters
  have hclass : RangeSet.ofCategories [.lowercaseLetter] = lowercaseLetters := RangeSet.unions_singleton hchain
  unfold namedClass?
  dsimp only
  rw [hloose, property?_Ll, category?_Ll, hclass]
  rfl

end GrammarCheck.Unicode
