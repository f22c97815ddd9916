import GrammarCheck.Source.Reader
import Mathlib.Data.List.Basic

/-! Literals and the texts they stand for. Where a literal ends is found by passing over pairs of a backslash and a double
quote; what it stands for is found by replacing such pairs afterwards. Both see the same pairs, since a double quote
comes right behind a backslash in a written text only where it was escaped. -/

namespace GrammarCheck.Text.Literal

variable {c : Char} {text rest after : List Char}

/-- A character that neither ends a literal nor starts an escaped double quote. -/
structure IsPlain (c : Char) (rest : List Char) : Prop where
  ne_quote : c ≠ '"'
  not_escape : ¬escapedQuote <+: c :: rest

theorem escapedQuote_isPrefix_cons : escapedQuote <+: c :: rest ↔ c = '\\' ∧ rest.head? = some '"' := by
  cases rest with
  | nil => simp [escapedQuote]
  | cons d rest => simp [escapedQuote, List.cons_prefix_cons, eq_comm]

theorem inner_escapedQuote (rest : List Char) :
    inner (escapedQuote ++ rest) = (escapedQuote ++ (inner rest).1, (inner rest).2) := rfl

theorem inner_quote (rest : List Char) : inner ('"' :: rest) = ([], '"' :: rest) := rfl

theorem inner_plain (h : IsPlain c rest) : inner (c :: rest) = (c :: (inner rest).1, (inner rest).2) := by
  have hnot := fun hescape => h.not_escape (escapedQuote_isPrefix_cons.mpr hescape)
  rw [inner]
  · rw [if_neg h.ne_quote]
  · rintro others rfl rfl
    exact hnot ⟨rfl, rfl⟩

theorem value_escapedQuote (rest : List Char) : value (escapedQuote ++ rest) = '"' :: value rest := rfl

theorem value_plain (h : ¬escapedQuote <+: c :: rest) : value (c :: rest) = c :: value rest := by
  have hnot : escapedQuote.isPrefixOf (c :: rest) = false := by
    rw [← Bool.not_eq_true, List.isPrefixOf_iff_prefix]
    exact h
  rw [value, replaceAll, replaceFrom, hnot]
  rfl

theorem encode_quote (text : List Char) : encode ('"' :: text) = escapedQuote ++ encode text := rfl

theorem encode_cons (hc : c ≠ '"') (text : List Char) : encode (c :: text) = c :: encode text := if_neg hc

/-- A written text does not start with a double quote. -/
theorem head?_encode (text : List Char) : (encode text).head? ≠ some '"' := by
  cases text with
  | nil => simp [encode]
  | cons c text =>
    by_cases hc : c = '"'
    · subst hc
      simp [encode_quote, escapedQuote]
    · simpa [encode_cons hc] using hc

/-- Replacing the pairs takes back what writing did. -/
theorem value_encode (text : List Char) : value (encode text) = text := by
  induction text with
  | nil => rfl
  | cons c text ih =>
    by_cases hc : c = '"'
    · subst hc
      rw [encode_quote, value_escapedQuote, ih]
    · have hplain : ¬escapedQuote <+: c :: encode text := by
        rw [escapedQuote_isPrefix_cons]
        exact fun h => head?_encode text h.2
      rw [encode_cons hc, value_plain hplain, ih]

/-- A written text runs up to the double quote behind it, unless a backslash at its end takes that one in. -/
theorem inner_encode (htext : text.getLast? ≠ some '\\') (after : List Char) :
    inner (encode text ++ '"' :: after) = (encode text, '"' :: after) := by
  induction text with
  | nil => exact inner_quote after
  | cons c text ih =>
    have hrest : text.getLast? ≠ some '\\' := by
      intro hlast
      rw [List.getLast?_cons, hlast] at htext
      exact htext rfl
    by_cases hc : c = '"'
    · subst hc
      rw [encode_quote, List.append_assoc, inner_escapedQuote, ih hrest]
    · have hplain : IsPlain c (encode text ++ '"' :: after) := by
        refine ⟨hc, fun hescape => ?_⟩
        obtain ⟨rfl, hhead⟩ := escapedQuote_isPrefix_cons.mp hescape
        cases text with
        | nil => exact htext rfl
        | cons d text =>
          have hne : encode (d :: text) ≠ [] := by
            by_cases hd : d = '"' <;> simp [encode, hd, escapedQuote]
          rw [List.head?_append_of_ne_nil _ hne] at hhead
          exact head?_encode _ hhead
      rw [encode_cons hc, List.cons_append, inner_plain hplain, ih hrest]

/-- What stands before the first double quote that is not escaped is a written text, which does not end in a backslash. -/
theorem exists_encode_of_inner (h : (inner text).2 = '"' :: after) :
    ∃ written, text = encode written ++ '"' :: after ∧ (inner text).1 = encode written ∧
      written.getLast? ≠ some '\\' := by
  fun_induction inner text with
  | case1 => cases h
  | case2 rest inside behind hinner ih =>
    rw [hinner] at ih
    obtain ⟨written, rfl, hinside, hlast⟩ := ih h
    have hquote : '\\' :: '"' :: inside = encode ('"' :: written) := congrArg (escapedQuote ++ ·) hinside
    refine ⟨'"' :: written, rfl, hquote, ?_⟩
    intro hend
    cases written with
    | nil => cases hend
    | cons d written => exact hlast hend
  | case3 rest hnot =>
    obtain ⟨-, rfl⟩ := List.cons.inj h
    exact ⟨[], rfl, rfl, by simp⟩
  | case4 c rest hnot hc inside behind hinner ih =>
    rw [hinner] at ih
    obtain ⟨written, rfl, hinside, hlast⟩ := ih h
    have hplain : c :: inside = c :: encode written := congrArg (c :: ·) hinside
    refine ⟨c :: written, by rw [encode_cons hc]; rfl, by rw [encode_cons hc]; exact hplain, ?_⟩
    intro hend
    cases written with
    | nil =>
      -- The backslash would stand before the double quote that ends the literal.
      obtain rfl : c = '\\' := by simpa using hend
      exact hnot after rfl rfl
    | cons d written => exact hlast hend

theorem read_write (htext : text.getLast? ≠ some '\\') (after : List Char) :
    read (write text ++ after) = some (text, after) := by
  have hwrite : write text ++ after = '"' :: (encode text ++ '"' :: after) := by simp [write]
  have hinner := inner_encode htext after
  simp only [hwrite, read, hinner, value_encode]

theorem eq_write_of_read {written : List Char} (h : read text = some (written, after)) :
    written.getLast? ≠ some '\\' ∧ text = write written ++ after := by
  unfold read at h
  split at h
  · rename_i rest
    split at h
    · rename_i inside behind hinner
      obtain ⟨rfl, rfl⟩ := Prod.mk.inj (Option.some.inj h)
      have hbehind : (inner rest).2 = '"' :: behind := congrArg Prod.snd hinner
      obtain ⟨source, hrest, hinside, hlast⟩ := exists_encode_of_inner hbehind
      have hvalue : value inside = source := by
        rw [← value_encode source, ← hinside, hinner]
      rw [hvalue, hrest]
      exact ⟨hlast, by simp [write]⟩
    · cases h
  · cases h

end GrammarCheck.Text.Literal

namespace GrammarCheck.Source.Reader

open Text

theorem string_eq_some_iff_read {c c' : Cursor} {s : String} : string c = some (s, c') ↔
    Literal.read c.rest = some (s.toList, c'.rest) ∧
      c'.location = c.location.afterAll (c.rest.take (c.rest.length - c'.rest.length)) := by
  unfold string
  cases hread : Literal.read c.rest with
  | none => simp
  | some found =>
    obtain ⟨text, rest⟩ := found
    constructor
    · intro h
      obtain ⟨rfl, rfl⟩ := Prod.mk.inj (Option.some.inj h)
      exact ⟨by rw [String.toList_ofList], rfl⟩
    · rintro ⟨hfound, hlocation⟩
      obtain ⟨rfl, rfl⟩ := Prod.mk.inj (Option.some.inj hfound)
      dsimp only
      rw [← hlocation, String.ofList_toList]

/-- The rule for strings reads just the literals that writing gives, and each as the text that was written. A text that
ends in a backslash has none: that one would take the closing quote in. -/
theorem string_reads_written {c c' : Cursor} {s : String} : string c = some (s, c') ↔
    s.toList.getLast? ≠ some '\\' ∧ c.rest = Literal.write s.toList ++ c'.rest ∧
      c'.location = c.location.afterAll (Literal.write s.toList) := by
  have htaken (h : c.rest = Literal.write s.toList ++ c'.rest) :
      c.rest.take (c.rest.length - c'.rest.length) = Literal.write s.toList := by
    rw [h, List.length_append, Nat.add_sub_cancel, List.take_left]
  rw [string_eq_some_iff_read]
  constructor
  · rintro ⟨hread, hlocation⟩
    obtain ⟨hlast, hrest⟩ := Literal.eq_write_of_read hread
    rw [htaken hrest] at hlocation
    exact ⟨hlast, hrest, hlocation⟩
  · rintro ⟨hlast, hrest, hlocation⟩
    have hread := Literal.read_write hlast c'.rest
    rw [← hrest] at hread
    rw [htaken hrest]
    exact ⟨hread, hlocation⟩

-- A backslash right before an escaped double quote stands for itself.
example : Literal.read ['"', '\\', '\\', '"', '#', '\n', '"', ';'] = some (['\\', '"', '#', '\n'], [';']) := by decide

end GrammarCheck.Source.Reader
