import GrammarCheck.Analysis.Segment
import Mathlib.Data.List.Basic

/-! The words of a text: runs of characters that are no blanks, with blanks between them. The tokens of a sentence are
words of it. -/

namespace GrammarCheck.Analysis

open Unicode (isWhitespace)

@[simp] theorem byteLength_nil : byteLength [] = 0 := rfl

@[simp] theorem byteLength_cons (c : Char) (text : List Char) :
    byteLength (c :: text) = c.utf8Size + byteLength text := rfl

@[simp] theorem byteLength_append (front back : List Char) :
    byteLength (front ++ back) = byteLength front + byteLength back := by
  induction front with
  | nil => rw [List.nil_append, byteLength_nil, Nat.zero_add]
  | cons c front ih => rw [List.cons_append, byteLength_cons, byteLength_cons, ih, Nat.add_assoc]

theorem utf8ByteSize_ofList (text : List Char) : (String.ofList text).utf8ByteSize = byteLength text := by
  induction text with
  | nil => rfl
  | cons c rest ih =>
    have hsplit : String.ofList (c :: rest) = String.singleton c ++ String.ofList rest := by
      rw [String.singleton_eq_ofList, ← String.ofList_append]
      rfl
    rw [hsplit, String.utf8ByteSize_append, String.utf8ByteSize_singleton, ih, byteLength_cons]

/-- The pieces are words that make up the text, but for blanks; it starts at a byte, behind a character. -/
inductive Tiles : Nat → Option Char → List Char → List Piece → Prop
  | nil (start : Nat) (before : Option Char) : Tiles start before [] []
  | blank {start : Nat} {before : Option Char} {c : Char} {rest : List Char} {pieces : List Piece}
      (hblank : isWhitespace c = true) (hrest : Tiles (start + c.utf8Size) (some c) rest pieces) :
      Tiles start before (c :: rest) pieces
  | word {start : Nat} {before : Option Char} {word rest : List Char} {pieces : List Piece} (hword : word ≠ [])
      (hchars : ∀ c ∈ word, isWhitespace c = false)
      (hrest : Tiles (start + byteLength word) (word.getLast?.or before) rest pieces) :
      Tiles start before (word ++ rest) (⟨start, word, before⟩ :: pieces)

theorem getLast?_append_or (front back : List Char) (before : Option Char) :
    (front ++ back).getLast?.or before = back.getLast?.or (front.getLast?.or before) := by
  rw [List.getLast?_append, Option.or_assoc]

theorem getLast?_cons_or (c : Char) (rest : List Char) (before : Option Char) :
    (c :: rest).getLast?.or before = rest.getLast?.or (some c) :=
  getLast?_append_or [c] rest before

namespace Tiles

variable {start : Nat} {before : Option Char} {text front back : List Char} {pieces others : List Piece}

theorem append (hfront : Tiles start before front pieces)
    (hback : Tiles (start + byteLength front) (front.getLast?.or before) back others) :
    Tiles start before (front ++ back) (pieces ++ others) := by
  induction hfront with
  | nil => exact hback
  | blank hblank _ ih =>
    rw [byteLength_cons, ← Nat.add_assoc, getLast?_cons_or] at hback
    exact .blank hblank (ih hback)
  | word hword hchars _ ih =>
    rw [byteLength_append, ← Nat.add_assoc, getLast?_append_or] at hback
    rw [List.append_assoc]
    exact .word hword hchars (ih hback)

theorem of_blanks (h : ∀ c ∈ text, isWhitespace c = true) : Tiles start before text [] := by
  induction text generalizing start before with
  | nil => exact .nil _ _
  | cons c rest ih =>
    obtain ⟨hc, hrest⟩ := List.forall_mem_cons.mp h
    exact .blank hc (ih hrest)

/-- Where a text starts with a character that is no blank, its first word does. -/
theorem exists_first {c : Char} {rest : List Char} (h : Tiles start before (c :: rest) pieces)
    (hc : isWhitespace c = false) :
    ∃ word after others, pieces = ⟨start, c :: word, before⟩ :: others ∧ rest = word ++ after ∧
      (∀ d ∈ c :: word, isWhitespace d = false) ∧
      Tiles (start + byteLength (c :: word)) ((c :: word).getLast?.or before) after others := by
  -- The characters are an index of the relation, so they are named before the cases are split.
  generalize htext : c :: rest = text at h
  cases h with
  | nil => exact absurd htext (List.cons_ne_nil _ _)
  | blank hblank _ =>
    obtain ⟨rfl, rfl⟩ := List.cons.inj htext
    exact absurd (hblank.symm.trans hc) (by decide)
  | @word _ _ word after others hword hchars hrest =>
    obtain ⟨d, word, rfl⟩ := List.exists_cons_of_ne_nil hword
    obtain ⟨rfl, rfl⟩ := List.cons.inj htext
    exact ⟨word, after, others, rfl, rfl, hchars, hrest⟩

theorem of_mem (h : Tiles start before text pieces) {p : Piece} (hp : p ∈ pieces) :
    (p.text ≠ [] ∧ ∀ c ∈ p.text, isWhitespace c = false) ∧
      ∃ front back, text = front ++ p.text ++ back ∧ p.start = start + byteLength front ∧
        p.before = front.getLast?.or before := by
  induction h with
  | nil => exact absurd hp List.not_mem_nil
  | @blank start before c _ _ _ _ ih =>
    obtain ⟨hword, front, back, rfl, hstart, hbefore⟩ := ih hp
    refine ⟨hword, c :: front, back, rfl, ?_, ?_⟩
    · rw [hstart, byteLength_cons, Nat.add_assoc]
    · rw [hbefore, getLast?_cons_or]
  | @word start before word _ _ hne hchars _ ih =>
    rcases List.mem_cons.mp hp with rfl | hp
    · exact ⟨⟨hne, hchars⟩, [], _, rfl, rfl, rfl⟩
    · obtain ⟨hword, front, back, rfl, hstart, hbefore⟩ := ih hp
      refine ⟨hword, word ++ front, back, by simp only [List.append_assoc], ?_, ?_⟩
      · rw [hstart, byteLength_append, Nat.add_assoc]
      · rw [hbefore, getLast?_append_or]

theorem pairwise (h : Tiles start before text pieces) : pieces.Pairwise fun p q => p.span.stop ≤ q.start := by
  induction h with
  | nil => exact List.Pairwise.nil
  | blank _ _ ih => exact ih
  | word _ _ hrest ih =>
    refine List.pairwise_cons.mpr ⟨fun q hq => ?_, ih⟩
    obtain ⟨-, front, back, -, hstart, -⟩ := hrest.of_mem hq
    rw [hstart]
    exact Nat.le_add_right _ _

/-- A character that is no blank is in a word. -/
theorem exists_around {c : Char} (h : Tiles start before (front ++ c :: back) pieces) (hc : isWhitespace c = false) :
    ∃ p ∈ pieces, p.start ≤ start + byteLength front ∧ start + byteLength front + c.utf8Size ≤ p.span.stop := by
  generalize htext : front ++ c :: back = text at h
  induction h generalizing front with
  | nil => exact absurd htext (by simp)
  | @blank start before d rest pieces hblank _ ih =>
    cases front with
    | nil =>
      obtain ⟨rfl, rfl⟩ := List.cons.inj htext
      exact absurd (hblank.symm.trans hc) (by decide)
    | cons d' front =>
      obtain ⟨rfl, rfl⟩ := List.cons.inj htext
      rw [byteLength_cons, ← Nat.add_assoc]
      exact ih rfl
  | @word start before word rest pieces _ _ _ ih =>
    rcases List.append_eq_append_iff.mp htext with ⟨inner, hword, hinner⟩ | ⟨later, rfl, hrest⟩
    · cases inner with
      | nil =>
        -- The character opens what follows the word.
        have hopens : [] ++ c :: back = rest := hinner
        obtain ⟨p, hp, hstart, hstop⟩ := ih hopens
        rw [List.append_nil] at hword
        rw [hword] at hstart hstop
        exact ⟨p, List.mem_cons_of_mem _ hp, hstart, hstop⟩
      | cons d inner =>
        obtain ⟨rfl, -⟩ := List.cons.inj hinner
        refine ⟨_, List.mem_cons_self, Nat.le_add_right _ _, ?_⟩
        rw [Piece.span, hword, byteLength_append, byteLength_cons]
        dsimp only
        omega
    · obtain ⟨p, hp, hstart, hstop⟩ := ih hrest.symm
      rw [byteLength_append, ← Nat.add_assoc]
      exact ⟨p, List.mem_cons_of_mem _ hp, hstart, hstop⟩

end Tiles

theorem isWhitespace_of_kindOf_eq_blank {c : Char} (h : kindOf c = .blank) : isWhitespace c = true := by
  unfold kindOf at h
  split at h
  · assumption
  · split at h <;> cases h

theorem isWhitespace_of_kindOf_ne_blank {c : Char} (h : kindOf c ≠ .blank) : isWhitespace c = false := by
  rw [Bool.eq_false_iff]
  intro hc
  exact h (by rw [kindOf, if_pos hc])

section Tokens

variable (start : Nat) (before : Option Char)

theorem tokensFrom_of_blank {c : Char} (h : kindOf c = .blank) (rest : List Char) :
    tokensFrom start before (c :: rest) = tokensFrom (start + c.utf8Size) (some c) rest := by
  -- The call on the rest stands on the right side too and has to stay closed.
  conv_lhs => unfold tokensFrom
  rw [h]

theorem tokensFrom_of_word {c : Char} (h : kindOf c = .word) (rest : List Char) :
    tokensFrom start before (c :: rest) =
      joinWord start c before rest (tokensFrom (start + c.utf8Size) (some c) rest) := by
  conv_lhs => unfold tokensFrom
  rw [h]

theorem tokensFrom_of_mark {c : Char} (h : kindOf c = .mark) (rest : List Char) :
    tokensFrom start before (c :: rest) =
      ⟨start, [c], before⟩ :: tokensFrom (start + c.utf8Size) (some c) rest := by
  conv_lhs => unfold tokensFrom
  rw [h]

theorem joinWord_cases (c : Char) (rest : List Char) (tokens : List Piece) :
    joinWord start c before rest tokens = ⟨start, [c], before⟩ :: tokens ∨
      ∃ d after next others, rest = d :: after ∧ kindOf d = .word ∧ tokens = next :: others ∧
        joinWord start c before rest tokens = ⟨start, c :: next.text, before⟩ :: others := by
  unfold joinWord
  split
  · split
    · rename_i hword
      exact Or.inr ⟨_, _, _, _, rfl, hword, rfl, rfl⟩
    · exact Or.inl rfl
  · exact Or.inl rfl

theorem tiles_tokensFrom (text : List Char) : Tiles start before text (tokensFrom start before text) := by
  induction text generalizing start before with
  | nil => exact .nil _ _
  | cons c rest ih =>
    have hrest := ih (start + c.utf8Size) (some c)
    have hsingle (hc : kindOf c ≠ .blank) :
        Tiles start before (c :: rest) (⟨start, [c], before⟩ :: tokensFrom (start + c.utf8Size) (some c) rest) :=
      Tiles.word (List.cons_ne_nil c [])
        (List.forall_mem_singleton.mpr (isWhitespace_of_kindOf_ne_blank hc)) hrest
    cases hkind : kindOf c with
    | blank =>
      rw [tokensFrom_of_blank start before hkind]
      exact .blank (isWhitespace_of_kindOf_eq_blank hkind) hrest
    | mark =>
      rw [tokensFrom_of_mark start before hkind]
      exact hsingle (by rw [hkind]; decide)
    | word =>
      have hc : kindOf c ≠ .blank := by
        rw [hkind]
        decide
      rw [tokensFrom_of_word start before hkind]
      rcases joinWord_cases start before c rest (tokensFrom (start + c.utf8Size) (some c) rest) with
        heq | ⟨d, after, next, others, rfl, hd, htokens, heq⟩
      · rw [heq]
        exact hsingle hc
      · -- The word behind starts with the next character, so it is the word that this one is put before.
        rw [htokens] at hrest
        have hd : isWhitespace d = false := isWhitespace_of_kindOf_ne_blank (by rw [hd]; decide)
        obtain ⟨word, after, others, hpieces, rfl, hchars, hafter⟩ := hrest.exists_first hd
        obtain ⟨rfl, rfl⟩ := List.cons.inj hpieces
        rw [Nat.add_assoc, ← byteLength_cons, ← getLast?_cons_or c _ before] at hafter
        rw [heq]
        exact Tiles.word (List.cons_ne_nil c (d :: word))
          (List.forall_mem_cons.mpr ⟨isWhitespace_of_kindOf_ne_blank hc, hchars⟩) hafter

end Tokens

end GrammarCheck.Analysis
