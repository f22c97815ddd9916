import GrammarCheck.Text.Case
import Mathlib.Data.List.Basic

/-! Text in lowercase stays as it is when it is lowered again. The characters that the table maps and those that it maps
to are compared as sets of bits. -/

namespace GrammarCheck.Unicode

/-- Code points as a set of bits. -/
def codeBits (codes : List Nat) : Nat := codes.foldl (fun bits n => bits ||| 1 <<< n) 0

theorem testBit_foldl_codeBits (codes : List Nat) (bits n : Nat) :
    (codes.foldl (fun bits n => bits ||| 1 <<< n) bits).testBit n = true ↔ bits.testBit n = true ∨ n ∈ codes := by
  induction codes generalizing bits with
  | nil => simp
  | cons m rest ih =>
    have hbit : (1 <<< m).testBit n = true ↔ n = m := by
      rw [Nat.one_shiftLeft, Nat.testBit_two_pow, decide_eq_true_eq]
      exact eq_comm
    rw [List.foldl_cons, ih, Nat.testBit_or, Bool.or_eq_true, hbit, List.mem_cons, or_assoc]

theorem testBit_codeBits (codes : List Nat) (n : Nat) : (codeBits codes).testBit n = true ↔ n ∈ codes := by
  rw [codeBits, testBit_foldl_codeBits, Nat.zero_testBit]
  simp

theorem not_mem_of_codeBits_and {codes codes' : List Nat} (h : codeBits codes &&& codeBits codes' = 0) {n : Nat}
    (hn : n ∈ codes') : n ∉ codes := by
  intro hmem
  have hbit : (codeBits codes &&& codeBits codes').testBit n = true := by
    rw [Nat.testBit_and, (testBit_codeBits codes n).mpr hmem, (testBit_codeBits codes' n).mpr hn]
    rfl
  rw [h, Nat.zero_testBit] at hbit
  exact nomatch hbit

namespace MappedRange

theorem mem_pairs_of_image? {r : MappedRange} {n m : Nat} (h : r.image? n = some m) : (n, m) ∈ r.pairs := by
  unfold image? at h
  split at h
  case isTrue hrange =>
    obtain ⟨hlow, hhigh, hstep⟩ := hrange
    have hcount : (n - r.low) / r.step * r.step = n - r.low := Nat.div_mul_cancel (Nat.dvd_of_mod_eq_zero hstep)
    have hle : (n - r.low) / r.step ≤ (r.high - r.low) / r.step := Nat.div_le_div_right (by omega)
    refine List.mem_map.mpr ⟨(n - r.low) / r.step, List.mem_range.mpr (by omega), ?_⟩
    rw [hcount, Nat.add_sub_cancel' hlow, Option.some_inj.mp h]
  case isFalse => exact nomatch h

theorem mem_pairs_of_lookup? {ranges : List MappedRange} {n m : Nat} (h : lookup? n ranges = some m) :
    (n, m) ∈ ranges.flatMap pairs := by
  induction ranges with
  | nil => exact nomatch h
  | cons r rest ih =>
    rw [List.flatMap_cons, List.mem_append]
    rw [lookup?] at h
    split at h
    · exact nomatch h
    · rcases Option.or_eq_some_iff.mp h with h | ⟨-, h⟩
      · exact Or.inl (mem_pairs_of_image? h)
      · exact Or.inr (ih h)

/-- A code point that is its own lowercase form if it is not mapped. -/
def isPlain (n : Nat) : Bool :=
  (Char.ofNat n).toNat == n && n != 0x130 && (Nat.ble 128 n || (Char.ofNat n).toLower == Char.ofNat n)

/-- Nothing is mapped to what is mapped itself. -/
def settles (pairs : List (Nat × Nat)) : Bool :=
  let results := 0x69 :: 0x307 :: pairs.map (·.2)
  codeBits (pairs.map (·.1)) &&& codeBits results == 0 && results.all isPlain

end MappedRange

namespace Casing

def pairsOf (table : List Char) : List (Nat × Nat) :=
  ((((Text.splitAtChar '\n' table).flatMap (Text.splitAtChar ' ')).filter (!·.isEmpty)).map
    MappedRange.ofItem).flatMap MappedRange.pairs

set_option maxRecDepth 10000 in
/-- The table is opened as a list of characters first, since comparing strings as such takes too long. -/
theorem settles_lowerRanges : MappedRange.settles (lowerRanges.flatMap MappedRange.pairs) = true := by
  obtain ⟨table, htable, hsettles⟩ : ∃ table, lowerTable = String.ofList table ∧
      MappedRange.settles (pairsOf table) = true := ⟨_, rfl, by decide +kernel⟩
  rw [lowerRanges, MappedRange.ofTable, Table.items, htable, String.toList_ofList]
  exact hsettles

end Casing

/-- What the table maps to, and the two characters of the dotted capital I, are in lowercase. -/
theorem lowerForm_of_mem_results {n : Nat}
    (hn : n ∈ 0x69 :: 0x307 :: (Casing.lowerRanges.flatMap MappedRange.pairs).map (·.2)) :
    lowerForm (Char.ofNat n) = [Char.ofNat n] := by
  have hsettles := Casing.settles_lowerRanges
  simp only [MappedRange.settles, Bool.and_eq_true, beq_iff_eq] at hsettles
  obtain ⟨hbits, hplain⟩ := hsettles
  have hown := List.all_eq_true.mp hplain n hn
  simp only [MappedRange.isPlain, Bool.and_eq_true, Bool.or_eq_true, beq_iff_eq, bne_iff_ne, Nat.ble_eq] at hown
  obtain ⟨⟨htoNat, hdotted⟩, hascii⟩ := hown
  unfold lowerForm
  rw [htoNat]
  by_cases hsmall : n < 128
  · have hlower := hascii.resolve_left (Nat.not_le_of_lt hsmall)
    rw [if_pos hsmall, hlower]
  · rw [if_neg hsmall, if_neg hdotted]
    split
    case h_1 m hm =>
      -- Then the result would be mapped itself, and its bit would be set on both sides.
      have hmapped : n ∈ (Casing.lowerRanges.flatMap MappedRange.pairs).map (·.1) :=
        List.mem_map.mpr ⟨(n, m), MappedRange.mem_pairs_of_lookup? hm, rfl⟩
      exact absurd hmapped (not_mem_of_codeBits_and hbits hn)
    case h_2 => rfl

theorem toLower_ascii : ∀ n < 128, (Char.ofNat n).toLower.toNat < 128 ∧
    (Char.ofNat n).toLower.toLower = (Char.ofNat n).toLower := by decide +kernel

theorem flatMap_lowerForm (c : Char) : (lowerForm c).flatMap lowerForm = lowerForm c := by
  by_cases hsmall : c.toNat < 128
  · have hc : lowerForm c = [c.toLower] := if_pos hsmall
    obtain ⟨hascii, hlower⟩ := toLower_ascii c.toNat hsmall
    rw [Char.ofNat_toNat] at hascii hlower
    have hagain : lowerForm c.toLower = [c.toLower.toLower] := if_pos hascii
    rw [hc, List.flatMap_singleton, hagain, hlower]
  · by_cases hdotted : c.toNat = 0x130
    · have hc : lowerForm c = [Char.ofNat 0x69, Char.ofNat 0x307] := by
        unfold lowerForm
        rw [if_neg hsmall, if_pos hdotted]
      have hi := lowerForm_of_mem_results (n := 0x69) (by simp)
      have hdot := lowerForm_of_mem_results (n := 0x307) (by simp)
      rw [hc, List.flatMap_cons, List.flatMap_singleton, hi, hdot]
      rfl
    · cases hlookup : MappedRange.lookup? c.toNat Casing.lowerRanges with
      | none =>
        have hc : lowerForm c = [c] := by
          unfold lowerForm
          rw [if_neg hsmall, if_neg hdotted, hlookup]
        rw [hc, List.flatMap_singleton, hc]
      | some m =>
        have hc : lowerForm c = [Char.ofNat m] := by
          unfold lowerForm
          rw [if_neg hsmall, if_neg hdotted, hlookup]
        have hresult : m ∈ (Casing.lowerRanges.flatMap MappedRange.pairs).map (·.2) :=
          List.mem_map.mpr ⟨(c.toNat, m), MappedRange.mem_pairs_of_lookup? hlookup, rfl⟩
        rw [hc, List.flatMap_singleton,
          lowerForm_of_mem_results (List.mem_cons_of_mem _ (List.mem_cons_of_mem _ hresult))]

end GrammarCheck.Unicode

namespace GrammarCheck.Text

theorem lowerChars_lowerChars (text : List Char) : lowerChars (lowerChars text) = lowerChars text := by
  rw [lowerChars, lowerChars, List.flatMap_assoc]
  exact List.flatMap_congr fun c _ => Unicode.flatMap_lowerForm c

theorem lowercase_lowercase (s : String) : lowercase (lowercase s) = lowercase s := by
  rw [lowercase, lowercase, String.toList_ofList, lowerChars_lowerChars]

end GrammarCheck.Text
