import GrammarCheck.Proofs.Regex.Anchored
import GrammarCheck.Proofs.Unicode.LowercaseLetters
import Mathlib

/-! The pattern of a word that starts with a lowercase letter. It is one character of a set, and any number of characters
of another set behind it; the text has to be of that form as a whole. -/

namespace GrammarCheck.Regex

open Unicode (RangeSet isLowercaseLetter lowercaseLetters rangesOf)

/-- A character of a set, and then characters of another one. -/
def startThen (first others : RangeSet) : Expr := .sequence [.chars first, .loop 0 none true (.chars others)]

theorem rounds_chars {text : Array Char} {set : RangeSet} {n i j : Nat} :
    Rounds ((Expr.chars set).Spans text) n i j ↔
      j = i + n ∧ ∀ k, i ≤ k → k < j → ∃ c, text[k]? = some c ∧ set.hasChar c = true := by
  induction n generalizing i with
  | zero =>
    constructor
    · intro h
      obtain rfl : i = j := h
      exact ⟨rfl, fun k hk hlt => by omega⟩
    · exact fun h => h.1.symm
  | succ n ih =>
    constructor
    · rintro ⟨k, ⟨hc, rfl⟩, hrounds⟩
      obtain ⟨rfl, hall⟩ := ih.mp hrounds
      refine ⟨by omega, fun k hk hlt => ?_⟩
      rcases Nat.eq_or_lt_of_le hk with rfl | hk
      · exact hc
      · exact hall k hk hlt
    · rintro ⟨rfl, hall⟩
      refine ⟨i + 1, ⟨hall i (Nat.le_refl i) (by omega), rfl⟩, ih.mpr ⟨by omega, fun k hk hlt => ?_⟩⟩
      exact hall k (by omega) hlt

theorem forall_getElem?_cons {p : Char → Prop} {c : Char} {rest : List Char} :
    (∀ k, 1 ≤ k → k < (c :: rest).length → ∃ d, (c :: rest).toArray[k]? = some d ∧ p d) ↔ ∀ d ∈ rest, p d := by
  constructor
  · intro h d hd
    obtain ⟨k, hk, rfl⟩ := List.mem_iff_getElem.mp hd
    obtain ⟨d, hd, hp⟩ := h (k + 1) (Nat.le_add_left 1 k) (Nat.succ_lt_succ hk)
    rw [List.getElem?_toArray, List.getElem?_cons_succ, List.getElem?_eq_getElem hk] at hd
    exact Option.some.inj hd ▸ hp
  · intro h k hk hlt
    obtain ⟨k, rfl⟩ := Nat.exists_eq_add_of_le' hk
    have hk : k < rest.length := Nat.lt_of_succ_lt_succ hlt
    refine ⟨rest[k], ?_, h _ (List.getElem_mem hk)⟩
    rw [List.getElem?_toArray, List.getElem?_cons_succ, List.getElem?_eq_getElem hk]

/-- The whole of a text is such a character and such characters. -/
theorem spans_startThen {first others : RangeSet} {text : List Char} :
    (startThen first others).Spans text.toArray 0 text.length ↔
      ∃ c rest, text = c :: rest ∧ first.hasChar c = true ∧ ∀ d ∈ rest, others.hasChar d = true := by
  have hloop (i j : Nat) : (Expr.loop 0 none true (.chars others)).Spans text.toArray i j ↔
      ∃ n, Rounds ((Expr.chars others).Spans text.toArray) n i j := by simp [Expr.Spans]
  rw [startThen, Expr.spans_sequence]
  constructor
  · rintro ⟨i, ⟨⟨c, hc, hfirst⟩, rfl⟩, j, hothers, hj⟩
    obtain rfl : j = text.length := hj
    obtain ⟨n, hrounds⟩ := (hloop 1 _).mp hothers
    obtain ⟨-, hall⟩ := rounds_chars.mp hrounds
    cases text with
    | nil => cases hc
    | cons d rest =>
      obtain rfl : d = c := by simpa using hc
      exact ⟨d, rest, rfl, hfirst, forall_getElem?_cons.mp hall⟩
  · rintro ⟨c, rest, rfl, hfirst, hall⟩
    have hlength : (c :: rest).length = 1 + rest.length := Nat.add_comm rest.length 1
    refine ⟨1, ⟨⟨c, rfl, hfirst⟩, rfl⟩, (c :: rest).length, (hloop 1 _).mpr ⟨rest.length, ?_⟩, rfl⟩
    exact rounds_chars.mpr ⟨hlength, forall_getElem?_cons.mpr hall⟩

/-- All characters but the newline. -/
def notNewline : RangeSet := Flags.newline.complement.scalars

theorem hasChar_notNewline (c : Char) : notNewline.hasChar c = true ↔ c ≠ '\n' := by
  have hranges : notNewline = ⟨[(0, 9), (11, 0xD7FF), (0xE000, 0x10FFFF)]⟩ := by decide +kernel
  have hvalid : c.toNat < 0xD800 ∨ 0xDFFF < c.toNat ∧ c.toNat < 0x110000 := c.valid
  have hnewline : c = '\n' ↔ c.toNat = 10 := by
    rw [← Char.toNat_inj]
    rfl
  rw [hranges, ne_eq, hnewline]
  simp only [RangeSet.hasChar, RangeSet.contains, RangeSet.search]
  split_ifs <;> simp <;> omega

/-- The pattern as it is written. -/
def lowercaseStart : String := "\\p\x7bLl\x7d.*"

theorem read_lowercaseStart : Ast.read (Matcher.anchor lowercaseStart true).toList =
    .ok (.concat [.assertion .lineStart, .group [] (.concat [.escape (.unicode (.named ['L', 'l']) false),
      .repetition 0 none true .dot]), .assertion .lineEnd], []) := by cbv

theorem ofSet_lowercaseLetters : Expr.ofSet lowercaseLetters = .chars lowercaseLetters := by
  rw [Expr.ofSet, Unicode.onlyChar?_lowercaseLetters, Unicode.scalars_lowercaseLetters]

theorem escapeSet_lowercaseLetters :
    Flags.escapeSet {} (.unicode (.named ['L', 'l']) false) = .ok lowercaseLetters := by
  unfold Flags.escapeSet
  dsimp only
  rw [Unicode.namedClass?_Ll]
  rfl

theorem meaning_lowercaseStart :
    (Ast.concat [.escape (.unicode (.named ['L', 'l']) false), .repetition 0 none true .dot]).meaning {} =
      .ok (startThen lowercaseLetters notNewline, {}) := by
  simp only [Ast.meaning, Ast.meanings, escapeSet_lowercaseLetters, ok_bind, ofSet_lowercaseLetters]
  rfl

set_option maxRecDepth 20000 in
theorem fits_lowercaseStart :
    (Expr.sequence (anchoredItems true (startThen lowercaseLetters notNewline))).fits = true := by
  obtain ⟨table, htable, hfits⟩ : ∃ table, Unicode.Category.lowercaseLetter.table = String.ofList table ∧
      (Expr.sequence (anchoredItems true (startThen ⟨rangesOf table⟩ notNewline))).fits = true :=
    ⟨_, rfl, by decide +kernel⟩
  rw [Unicode.lowercaseLetters_of_table htable]
  exact hfits

/-- The pattern as it is compiled. -/
def lowercaseLine : Regex where
  source := Matcher.anchor lowercaseStart true
  expr := .sequence (anchoredItems true (startThen lowercaseLetters notNewline))
  groups := []

theorem ofString_lowercaseStart : Regex.ofString (Matcher.anchor lowercaseStart true) = .ok lowercaseLine := by
  have hread : Expr.read {} (Matcher.anchor lowercaseStart true).toList = .ok (lowercaseLine.expr, []) := by
    have hmeaning := meaning_anchor true
      (.concat [.escape (.unicode (.named ['L', 'l']) false), .repetition 0 none true .dot])
    rw [caseItems, List.nil_append, Bool.not_true, meaning_lowercaseStart] at hmeaning
    exact read_expr_eq_ok.mpr ⟨_, _, read_lowercaseStart, hmeaning⟩
  rw [Regex.ofString, hread, ok_bind]
  exact if_pos fits_lowercaseStart

/-- The pattern matches the texts of one line that start with a lowercase letter. -/
theorem isMatch_lowercaseLine (text : String) :
    lowercaseLine.isMatch text = true ↔ ∃ c rest, text.toList = c :: rest ∧ isLowercaseLetter c = true ∧ '\n' ∉ rest := by
  have hwhole : lowercaseLine.isMatch text = true ↔
      (startThen lowercaseLetters notNewline).Spans text.toList.toArray 0 text.toList.length := by
    rw [isMatch_iff, lowercaseLine]
    constructor
    · rintro ⟨i, j, hi, hspans⟩
      obtain ⟨rfl, rfl, hwhole⟩ := (spans_anchored (by simpa using hi)).mp hspans
      simpa using hwhole
    · intro hwhole
      exact ⟨0, _, Nat.zero_le _, (spans_anchored (Nat.zero_le _)).mpr ⟨rfl, by simp, hwhole⟩⟩
  have hline (rest : List Char) : (∀ d ∈ rest, notNewline.hasChar d = true) ↔ '\n' ∉ rest := by
    simp only [hasChar_notNewline]
    exact ⟨fun h hmem => h _ hmem rfl, fun h d hd heq => h (heq ▸ hd)⟩
  simp only [hwhole, spans_startThen, hline]
  rfl

end GrammarCheck.Regex

namespace GrammarCheck.Matcher

theorem ofRegex_lowercaseStart :
    ofRegex Regex.lowercaseStart true = .ok (.regex Regex.lowercaseStart Regex.lowercaseLine) := by
  rw [ofRegex, Regex.ofString_lowercaseStart]
  rfl

end GrammarCheck.Matcher
