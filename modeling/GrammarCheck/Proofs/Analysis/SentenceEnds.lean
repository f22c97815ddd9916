import GrammarCheck.Proofs.Analysis.Paragraphs
import Mathlib.Data.List.Chain

/-! Where a text is cut. Its paragraphs lie between pairs of newlines, each of which is the first pair behind the one before.
A sentence ends behind a run of marks with a terminator in it, where a blank or the end of the paragraph follows, and
nowhere else. What is said about a run looks back from a place to all the marks before it, while the cutting goes
forward and only keeps whether there is a terminator among them. -/

namespace GrammarCheck.Analysis

open Unicode (isWhitespace)

/-- A mark that may stand at the end of a sentence. -/
def isEndMark (c : Char) : Bool := isTerminator c || isClosing c

/-- Of the marks that a text ends with, as many as there are, one is a terminator. -/
def hasTerminatedEnd (text : List Char) : Bool := (text.rtakeWhile isEndMark).any isTerminator

/-- Between two parts of a paragraph a sentence ends. -/
def EndsSentence (front back : List Char) : Prop :=
  hasTerminatedEnd front = true ∧ ∀ c ∈ back.head?, isWhitespace c = true

/-- Two of the texts meet behind some characters. -/
def MeetsBehind (texts : List (List Char)) (front : List Char) : Prop :=
  ∃ before after, texts = before ++ after ∧ before ≠ [] ∧ after ≠ [] ∧ before.flatten = front

/-- The texts lie between occurrences of a separator, each of which is the first one behind the one before. -/
inductive SplitAtFirst (separator : List Char) : List Char → List (List Char) → Prop
  | last {text : List Char} (hnone : ¬separator <:+: text) : SplitAtFirst separator text [text]
  | cons (front : List Char) {rest : List Char} {texts : List (List Char)}
      (hfirst : ∀ before after, front ++ separator ++ rest = before ++ separator ++ after →
        front.length ≤ before.length)
      (hrest : SplitAtFirst separator rest texts) :
      SplitAtFirst separator (front ++ separator ++ rest) (front :: texts)

namespace SplitAtFirst

variable {separator text : List Char} {texts : List (List Char)}

/-- A character before the first text, unless a separator starts with it. -/
theorem consHead (h : SplitAtFirst separator text texts) {c : Char} (hc : ¬separator <+: c :: text) :
    SplitAtFirst separator (c :: text) (consHead c texts) := by
  cases h with
  | last hnone => exact .last fun hinfix => (List.infix_cons_iff.mp hinfix).elim hc hnone
  | @cons front rest texts hfirst hrest =>
    refine .cons (c :: front) (fun before after heq => ?_) hrest
    cases before with
    | nil => exact absurd ⟨after, by simpa using heq.symm⟩ hc
    | cons d before =>
      have htail := (List.cons.inj heq).2
      exact Nat.succ_le_succ (hfirst before after htail)

end SplitAtFirst

theorem splitAtFirst_paragraphTexts (text : List Char) : SplitAtFirst ['\n', '\n'] text (paragraphTexts text) := by
  fun_induction paragraphTexts text with
  | case1 => exact .last (by simp)
  | case2 rest ih => exact .cons [] (fun _ _ _ => Nat.zero_le _) ih
  | case3 c rest hpair ih =>
    refine ih.consHead ?_
    rintro ⟨after, heq⟩
    obtain ⟨hc, hrest⟩ := List.cons.inj heq
    exact hpair after hc.symm hrest.symm

theorem isClosing_of_isWhitespace {c : Char} (h : isWhitespace c = true) : isClosing c = false := by
  rw [Bool.eq_false_iff]
  intro hc
  simp only [isClosing, Bool.or_eq_true, beq_iff_eq] at hc
  rcases hc with (((((rfl | rfl) | rfl) | rfl) | rfl) | rfl) | rfl <;> exact absurd h (by decide)

/-- What the cutting keeps of the marks behind it. -/
theorem hasTerminatedEnd_concat (text : List Char) (c : Char) :
    hasTerminatedEnd (text ++ [c]) = (isTerminator c || (hasTerminatedEnd text && isClosing c)) := by
  unfold hasTerminatedEnd
  rw [List.rtakeWhile_concat, isEndMark]
  cases hterminator : isTerminator c with
  | true =>
    rw [Bool.true_or, if_pos rfl, List.any_append, List.any_cons, hterminator, Bool.true_or, Bool.or_true, Bool.true_or]
  | false =>
    cases hclosing : isClosing c with
    | true =>
      rw [Bool.or_true, if_pos rfl, List.any_append, List.any_cons, hterminator, List.any_nil, Bool.or_false,
        Bool.or_false, Bool.false_or, Bool.and_true]
    | false => rw [Bool.or_false, if_neg Bool.false_ne_true, List.any_nil, Bool.and_false, Bool.or_false]

namespace MeetsBehind

variable {texts : List (List Char)} {front : List Char} {c : Char}

theorem nil_cons_iff (hne : texts ≠ []) : MeetsBehind ([] :: texts) front ↔ front = [] ∨ MeetsBehind texts front := by
  constructor
  · rintro ⟨before, after, heq, hbefore, hafter, rfl⟩
    obtain ⟨text, before, rfl⟩ := List.exists_cons_of_ne_nil hbefore
    obtain ⟨rfl, rfl⟩ := List.cons.inj heq
    cases before with
    | nil => exact Or.inl rfl
    | cons text before => exact Or.inr ⟨_, _, rfl, List.cons_ne_nil _ _, hafter, rfl⟩
  · rintro (rfl | ⟨before, after, rfl, -, hafter, rfl⟩)
    · exact ⟨[[]], texts, rfl, List.cons_ne_nil _ _, hne, rfl⟩
    · exact ⟨[] :: before, after, rfl, List.cons_ne_nil _ _, hafter, rfl⟩

theorem consHead_iff (hne : texts ≠ []) :
    MeetsBehind (consHead c texts) front ↔ ∃ rest, front = c :: rest ∧ MeetsBehind texts rest := by
  obtain ⟨first, others, rfl⟩ := List.exists_cons_of_ne_nil hne
  constructor
  · rintro ⟨before, after, heq, hbefore, hafter, rfl⟩
    obtain ⟨text, before, rfl⟩ := List.exists_cons_of_ne_nil hbefore
    obtain ⟨rfl, hothers⟩ := List.cons.inj heq
    exact ⟨_, rfl, first :: before, after, congrArg (first :: ·) hothers, List.cons_ne_nil _ _, hafter, rfl⟩
  · rintro ⟨rest, rfl, before, after, heq, hbefore, hafter, rfl⟩
    obtain ⟨text, before, rfl⟩ := List.exists_cons_of_ne_nil hbefore
    obtain ⟨rfl, rfl⟩ := List.cons.inj heq
    exact ⟨(c :: first) :: before, after, rfl, List.cons_ne_nil _ _, hafter, rfl⟩

/-- A text behind the others is met behind all of them. -/
theorem concat_iff (hne : texts ≠ []) (last : List Char) :
    MeetsBehind (texts ++ [last]) front ↔ MeetsBehind texts front ∨ front = texts.flatten := by
  constructor
  · rintro ⟨before, after, heq, hbefore, hafter, rfl⟩
    rcases List.append_eq_append_iff.mp heq with ⟨rest, rfl, hrest⟩ | ⟨rest, rfl, rfl⟩
    · cases rest with
      | nil => exact Or.inr (by rw [List.append_nil])
      | cons text rest =>
        obtain ⟨-, hnil⟩ := List.append_eq_nil_iff.mp (List.cons.inj hrest).2.symm
        exact absurd hnil hafter
    · by_cases hrest : rest = []
      · exact Or.inr (by rw [hrest, List.append_nil])
      · exact Or.inl ⟨before, rest, rfl, hbefore, hrest, rfl⟩
  · rintro (⟨before, after, rfl, hbefore, hafter, rfl⟩ | rfl)
    · exact ⟨before, after ++ [last], by rw [List.append_assoc], hbefore, by simp, rfl⟩
    · exact ⟨texts, [last], rfl, hne, List.cons_ne_nil _ _, rfl⟩

end MeetsBehind

section Cutting

variable {ending : Bool} {c : Char} {front back rest : List Char}

theorem meetsBehind_nil_iff :
    MeetsBehind (sentenceTexts ending (c :: rest)) [] ↔ ending = true ∧ isWhitespace c = true := by
  rw [sentenceTexts, ← Bool.and_eq_true]
  split
  · rename_i hcut
    exact iff_of_true ((MeetsBehind.nil_cons_iff (consHead_ne_nil _ _)).mpr (Or.inl rfl)) hcut
  · rename_i hkept
    refine iff_of_false (fun hmeets => ?_) hkept
    obtain ⟨_, hnil, -⟩ := (MeetsBehind.consHead_iff (sentenceTexts_ne_nil _ _)).mp hmeets
    exact absurd hnil.symm (List.cons_ne_nil _ _)

theorem meetsBehind_cons_iff :
    MeetsBehind (sentenceTexts ending (c :: rest)) (c :: front) ↔
      MeetsBehind (sentenceTexts (isTerminator c || (ending && isClosing c)) rest) front := by
  have hhead (flag : Bool) : MeetsBehind (consHead c (sentenceTexts flag rest)) (c :: front) ↔
      MeetsBehind (sentenceTexts flag rest) front := by
    rw [MeetsBehind.consHead_iff (sentenceTexts_ne_nil _ _)]
    refine ⟨?_, fun hmeets => ⟨front, rfl, hmeets⟩⟩
    rintro ⟨_, heq, hmeets⟩
    rwa [(List.cons.inj heq).2]
  rw [sentenceTexts]
  split
  · -- A blank is no mark, so no run goes on behind it.
    rename_i hcut
    have hblank := (Bool.and_eq_true_iff.mp hcut).2
    rw [MeetsBehind.nil_cons_iff (consHead_ne_nil _ _), hhead, isTerminator_of_isWhitespace hblank,
      isClosing_of_isWhitespace hblank, Bool.and_false, Bool.or_false]
    exact or_iff_right (List.cons_ne_nil _ _)
  · exact hhead _

theorem not_meetsBehind_singleton (text : List Char) : ¬MeetsBehind [text] front := by
  rintro ⟨before, after, heq, hbefore, hafter, -⟩
  obtain ⟨first, before, rfl⟩ := List.exists_cons_of_ne_nil hbefore
  exact hafter (List.append_eq_nil_iff.mp (List.cons.inj heq).2.symm).2

/-- Inside a text it is cut where sentences end. The cutting knows of what lies behind it only whether a run of marks
with a terminator is just there. -/
theorem meetsBehind_sentenceTexts (behind : List Char) (front back : List Char) :
    MeetsBehind (sentenceTexts (hasTerminatedEnd behind) (front ++ back)) front ↔
      back ≠ [] ∧ EndsSentence (behind ++ front) back := by
  induction front generalizing behind with
  | nil =>
    cases back with
    | nil => exact iff_of_false (not_meetsBehind_singleton _) fun h => h.1 rfl
    | cons c back =>
      rw [List.nil_append, meetsBehind_nil_iff, List.append_nil]
      simp [EndsSentence]
  | cons c front ih =>
    rw [List.cons_append, meetsBehind_cons_iff, ← hasTerminatedEnd_concat, ih, List.append_assoc, List.singleton_append]

end Cutting

/-- The sentences of a paragraph with the blanks around them, and nothing behind the last one if it has an end. -/
def cutTexts (paragraph : List Char) : List (List Char) :=
  sentenceTexts false paragraph ++ if hasTerminatedEnd paragraph then [[]] else []

theorem intercalate_nil_left (texts : List (List Char)) : [].intercalate texts = texts.flatten := by
  induction texts with
  | nil => rfl
  | cons text rest ih =>
    cases rest with
    | nil => rw [List.intercalate_singleton, List.flatten_singleton]
    | cons next others =>
      rw [List.intercalate_cons_cons, ih, List.append_nil]
      rfl

theorem flatten_sentenceTexts (ending : Bool) (text : List Char) : (sentenceTexts ending text).flatten = text := by
  rw [← intercalate_nil_left, intercalate_sentenceTexts]

theorem meetsBehind_cutTexts (front back : List Char) :
    MeetsBehind (cutTexts (front ++ back)) front ↔ EndsSentence front back := by
  have hinside := meetsBehind_sentenceTexts [] front back
  rw [List.nil_append, show hasTerminatedEnd [] = false from rfl] at hinside
  unfold cutTexts
  split
  · rename_i hend
    rw [MeetsBehind.concat_iff (sentenceTexts_ne_nil _ _), hinside, flatten_sentenceTexts]
    cases back with
    | nil => simpa [EndsSentence] using hend
    | cons c back => simp
  · rename_i hend
    rw [List.append_nil, hinside]
    refine and_iff_right_of_imp ?_
    rintro hends rfl
    rw [List.append_nil] at hend
    exact hend hends.1

theorem flatten_cutTexts (paragraph : List Char) : (cutTexts paragraph).flatten = paragraph := by
  unfold cutTexts
  rw [List.flatten_append, flatten_sentenceTexts]
  split <;> exact List.append_nil _

namespace Piece

/-- The pieces make up a text that starts at a byte, with a separator between them. -/
structure Follow (separator : List Char) (start : Nat) (text : List Char) (pieces : List Piece) : Prop where
  joined : separator.intercalate (pieces.map (·.text)) = text
  first : ∀ p ∈ pieces.head?, p.start = start
  next : pieces.IsChain fun p q => q.start = p.span.stop + byteLength separator

/-- The piece is what is left of another one without the blanks around it. -/
def IsTrimOf (part whole : Piece) : Prop :=
  ∃ lead trail, whole.text = lead ++ part.text ++ trail ∧ part.start = whole.start + byteLength lead ∧
    (∀ c ∈ lead, isWhitespace c = true) ∧ (∀ c ∈ trail, isWhitespace c = true) ∧
    (∀ c ∈ part.text.head?, isWhitespace c = false) ∧ ∀ c ∈ part.text.getLast?, isWhitespace c = false

section Locate

variable (separator : List Char) (start : Nat) (before : Option Char) (texts : List (List Char))

theorem map_text_locate : (locate separator start before texts).map (·.text) = texts := by
  induction texts generalizing start before with
  | nil => rfl
  | cons text rest ih => rw [locate, List.map_cons, ih]

theorem start_head_locate : ∀ p ∈ (locate separator start before texts).head?, p.start = start := by
  cases texts with
  | nil => exact fun p hp => nomatch hp
  | cons text rest =>
    rintro _ ⟨⟩
    rfl

theorem isChain_locate :
    (locate separator start before texts).IsChain fun p q => q.start = p.span.stop + byteLength separator := by
  induction texts generalizing start before with
  | nil => exact List.IsChain.nil
  | cons text rest ih =>
    rw [locate, List.isChain_cons]
    refine ⟨fun q hq => ?_, ih _ _⟩
    rw [start_head_locate _ _ _ _ q hq, byteLength_append, ← Nat.add_assoc]
    rfl

theorem follow_locate : Follow separator start (separator.intercalate texts) (locate separator start before texts) where
  joined := by rw [map_text_locate]
  first := start_head_locate separator start before texts
  next := isChain_locate separator start before texts

end Locate

theorem start_trimStart (start : Nat) (before : Option Char) (text : List Char) :
    (trimStart start before text).start = start + byteLength (text.takeWhile isWhitespace) := by
  induction text generalizing start before with
  | nil => rfl
  | cons c rest ih =>
    rw [trimStart, List.takeWhile_cons]
    split
    · rw [ih, byteLength_cons, Nat.add_assoc]
    · rfl

theorem text_trim (p : Piece) : p.trim.text = (p.text.dropWhile isWhitespace).rdropWhile isWhitespace :=
  congrArg (List.rdropWhile isWhitespace) (text_trimStart p.start p.before p.text)

theorem isTrimOf_trim (p : Piece) : p.trim.IsTrimOf p := by
  have htext := p.text_trim
  refine ⟨p.text.takeWhile isWhitespace, (p.text.dropWhile isWhitespace).rtakeWhile isWhitespace, ?_, ?_, ?_, ?_, ?_,
    ?_⟩
  · rw [htext, List.append_assoc, List.rdropWhile_append_rtakeWhile, List.takeWhile_append_dropWhile]
  · exact start_trimStart _ _ _
  · exact fun c hc => List.mem_takeWhile_imp hc
  · exact fun c hc => List.mem_rtakeWhile_imp hc
  · intro c hc
    obtain ⟨rest, hrest⟩ := List.head?_eq_some_iff.mp hc
    exact isWhitespace_head_trim hrest
  · intro c hc
    rw [htext] at hc
    obtain ⟨hne, rfl⟩ := List.mem_getLast?_eq_getLast hc
    exact Bool.eq_false_iff.mpr (List.rdropWhile_last_not _ _ hne)

/-- Trimming leaves something of the pieces that are not blank. -/
theorem forall₂_trimmed (pieces : List Piece) :
    List.Forall₂ (fun whole part => part.IsTrimOf whole) (pieces.filter fun p => !p.text.all isWhitespace)
      (trimmed pieces) := by
  have hempty (p : Piece) : p.trim.text.isEmpty = p.text.all isWhitespace := by
    have hsplit : p.text.all isWhitespace = (p.text.dropWhile isWhitespace).all isWhitespace := by
      conv_lhs => rw [← List.takeWhile_append_dropWhile (p := isWhitespace) (l := p.text)]
      rw [List.all_append, List.all_takeWhile, Bool.true_and]
    rw [hsplit, Bool.eq_iff_iff, List.isEmpty_iff, text_trim, List.rdropWhile_eq_nil_iff, List.all_eq_true]
  have hfilter : ((!·.text.isEmpty) ∘ trim) = fun p : Piece => !p.text.all isWhitespace :=
    funext fun p => congrArg (!·) (hempty p)
  rw [trimmed, List.filter_map, hfilter, List.forall₂_map_right_iff, List.forall₂_same]
  exact fun p _ => p.isTrimOf_trim

end Piece

open Piece

/-- The parts of a paragraph between the ends of its sentences. -/
def partsOf (paragraph : Piece) : List Piece := locate [] paragraph.start paragraph.before (cutTexts paragraph.text)

theorem trimmed_partsOf (paragraph : Piece) : trimmed (partsOf paragraph) = sentencesOf paragraph := by
  unfold partsOf cutTexts
  rw [locate_append, trimmed_append, sentencesOf_eq]
  refine (congrArg _ ?_).trans (List.append_nil _)
  split
  · exact trimmed_of_blanks (List.forall_mem_nil _)
  · rfl

/-- The parts make up the paragraph, and they meet where sentences end and nowhere else. -/
structure IsCutAtEnds (paragraph : Piece) (parts : List Piece) : Prop where
  follow : Follow [] paragraph.start paragraph.text parts
  meets_iff : ∀ front back, front ++ back = paragraph.text →
    (MeetsBehind (parts.map (·.text)) front ↔ EndsSentence front back)

theorem isCutAtEnds_partsOf (paragraph : Piece) : IsCutAtEnds paragraph (partsOf paragraph) where
  follow := by
    have hfollow := follow_locate [] paragraph.start paragraph.before (cutTexts paragraph.text)
    rwa [intercalate_nil_left, flatten_cutTexts] at hfollow
  meets_iff front back htext := by
    rw [partsOf, map_text_locate, ← htext]
    exact meetsBehind_cutTexts front back

theorem sentences_eq_trimmed (text : List Char) : sentences text = trimmed ((paragraphs text).flatMap partsOf) := by
  rw [trimmed, List.map_flatMap, List.filter_flatMap]
  exact List.flatMap_congr fun p _ => (trimmed_partsOf p).symm

/-- A text is cut into paragraphs where two newlines follow one another, and a paragraph where sentences end. The sentences
are what is not blank of the parts, in order and without the blanks around. -/
theorem sentences_between_ends (text : List Char) :
    Follow ['\n', '\n'] 0 text (paragraphs text) ∧
      SplitAtFirst ['\n', '\n'] text ((paragraphs text).map (·.text)) ∧
      ∃ parts : Piece → List Piece, (∀ p ∈ paragraphs text, IsCutAtEnds p (parts p)) ∧
        List.Forall₂ (fun whole part => part.IsTrimOf whole)
          (((paragraphs text).flatMap parts).filter fun p => !p.text.all isWhitespace) (sentences text) := by
  have hfollow := follow_locate ['\n', '\n'] 0 none (paragraphTexts text)
  rw [intercalate_paragraphTexts] at hfollow
  refine ⟨hfollow, ?_, partsOf, fun p _ => isCutAtEnds_partsOf p, ?_⟩
  · rw [paragraphs, map_text_locate]
    exact splitAtFirst_paragraphTexts text
  · rw [sentences_eq_trimmed]
    exact forall₂_trimmed _

example : (sentences "A (b.) 3.5?!\n c.d\n\n\n.) e".toList).map (fun p => (p.start, String.ofList p.text)) =
    [(0, "A (b.)"), (7, "3.5?!"), (14, "c.d"), (20, ".)"), (23, "e")] := by decide +kernel

end GrammarCheck.Analysis
