import GrammarCheck.Analysis.Analyzer
import GrammarCheck.Proofs.Analysis.Words
import Mathlib.Data.List.DropRight

/-! Where the tokens of a text lie. Paragraphs are parts of the text, sentences are parts of paragraphs, and tokens are
parts of sentences, one behind the other, so the bytes at which a token starts and stops lie between characters. -/

namespace GrammarCheck

namespace Analysis

/-- The piece is a part of a text that starts at a byte. -/
def Piece.IsIn (start : Nat) (text : List Char) (p : Piece) : Prop :=
  ∃ front back, text = front ++ p.text ++ back ∧ p.start = start + byteLength front

namespace Piece

variable {start : Nat} {text : List Char} {p q : Piece}

theorem IsIn.trans (hq : q.IsIn p.start p.text) (hp : p.IsIn start text) : q.IsIn start text := by
  obtain ⟨front, back, hptext, hpstart⟩ := hp
  obtain ⟨front', back', hqtext, hqstart⟩ := hq
  refine ⟨front ++ front', back' ++ back, ?_, ?_⟩
  · rw [hptext, hqtext]
    simp only [List.append_assoc]
  · rw [hqstart, hpstart, byteLength_append, Nat.add_assoc]

theorem IsIn.behind {front : List Char} (h : p.IsIn (start + byteLength front) text) :
    p.IsIn start (front ++ text) := by
  obtain ⟨front', back, rfl, hstart⟩ := h
  refine ⟨front ++ front', back, ?_, ?_⟩
  · simp only [List.append_assoc]
  · rw [hstart, byteLength_append, Nat.add_assoc]

theorem isIn_at (start : Nat) (before : Option Char) (text back : List Char) :
    IsIn start (text ++ back) ⟨start, text, before⟩ :=
  ⟨[], back, rfl, rfl⟩

theorem IsIn.bounds (h : p.IsIn start text) : start ≤ p.start ∧ p.span.stop ≤ start + byteLength text := by
  obtain ⟨front, back, rfl, hstart⟩ := h
  rw [span, hstart, byteLength_append, byteLength_append]
  dsimp only
  omega

theorem isIn_of_mem_locate {separator : List Char} {before : Option Char} {texts : List (List Char)}
    (h : p ∈ locate separator start before texts) : p.IsIn start (separator.intercalate texts) := by
  induction texts generalizing start before with
  | nil => exact absurd h List.not_mem_nil
  | cons text rest ih =>
    rw [locate] at h
    cases rest with
    | nil =>
      rw [List.mem_singleton.mp h, List.intercalate_singleton]
      simpa using isIn_at start before text []
    | cons next others =>
      rw [List.intercalate_cons_cons, List.append_assoc]
      rcases List.mem_cons.mp h with rfl | h
      · exact isIn_at start before text _
      · rw [← List.append_assoc]
        exact (ih h).behind

theorem pairwise_locate (separator : List Char) (start : Nat) (before : Option Char) (texts : List (List Char)) :
    (locate separator start before texts).Pairwise fun p q => p.span.stop ≤ q.start := by
  induction texts generalizing start before with
  | nil => exact List.Pairwise.nil
  | cons text rest ih =>
    refine List.pairwise_cons.mpr ⟨fun q hq => ?_, ih _ _⟩
    have hlow := (isIn_of_mem_locate hq).bounds.1
    rw [byteLength_append] at hlow
    show start + byteLength text ≤ q.start
    omega

theorem isIn_trimStart (start : Nat) (before : Option Char) (text : List Char) :
    (trimStart start before text).IsIn start text := by
  induction text generalizing start before with
  | nil => exact isIn_at start before [] []
  | cons c rest ih =>
    rw [trimStart]
    split
    · have hrest : (trimStart (start + c.utf8Size) (some c) rest).IsIn (start + byteLength [c]) rest := ih _ _
      exact hrest.behind
    · simpa using isIn_at start before (c :: rest) []

theorem isIn_trim (p : Piece) : p.trim.IsIn p.start p.text := by
  have htrimmed := isIn_trimStart p.start p.before p.text
  refine IsIn.trans ?_ htrimmed
  obtain ⟨back, hback⟩ := List.rdropWhile_prefix Unicode.isWhitespace (trimStart p.start p.before p.text).text
  exact ⟨[], back, hback.symm, rfl⟩

end Piece

theorem intercalate_consHead (separator : List Char) (c : Char) (texts : List (List Char)) :
    separator.intercalate (consHead c texts) = c :: separator.intercalate texts := by
  cases texts with
  | nil => simp [consHead]
  | cons text rest =>
    cases rest with
    | nil => simp [consHead]
    | cons next others => simp [consHead, List.intercalate_cons_cons]

theorem consHead_ne_nil (c : Char) (texts : List (List Char)) : consHead c texts ≠ [] := by
  cases texts <;> simp [consHead]

theorem paragraphTexts_ne_nil (text : List Char) : paragraphTexts text ≠ [] := by
  fun_cases paragraphTexts text with
  | case1 => simp
  | case2 => simp
  | case3 => exact consHead_ne_nil _ _

theorem intercalate_cons_of_ne_nil {separator text : List Char} {texts : List (List Char)} (h : texts ≠ []) :
    separator.intercalate (text :: texts) = text ++ separator ++ separator.intercalate texts := by
  obtain ⟨next, others, rfl⟩ := List.exists_cons_of_ne_nil h
  exact List.intercalate_cons_cons

/-- The paragraphs with newlines between them are the text. -/
theorem intercalate_paragraphTexts (text : List Char) : ['\n', '\n'].intercalate (paragraphTexts text) = text := by
  fun_induction paragraphTexts text with
  | case1 => rfl
  | case2 rest ih =>
    rw [intercalate_cons_of_ne_nil (paragraphTexts_ne_nil rest), ih]
    rfl
  | case3 c rest _ ih => rw [intercalate_consHead, ih]

/-- The sentences of a paragraph with their blanks are the paragraph. -/
theorem intercalate_sentenceTexts (ending : Bool) (text : List Char) :
    [].intercalate (sentenceTexts ending text) = text := by
  induction text generalizing ending with
  | nil => rfl
  | cons c rest ih =>
    rw [sentenceTexts]
    split
    · rw [intercalate_cons_of_ne_nil (consHead_ne_nil c _), intercalate_consHead, ih]
      rfl
    · rw [intercalate_consHead, ih]

theorem isIn_of_mem_sentencesOf {paragraph p : Piece} (h : p ∈ sentencesOf paragraph) :
    p.IsIn paragraph.start paragraph.text := by
  obtain ⟨untrimmed, huntrimmed, rfl⟩ := List.mem_map.mp (List.mem_of_mem_filter h)
  have hpart := Piece.isIn_of_mem_locate huntrimmed
  rw [intercalate_sentenceTexts] at hpart
  exact untrimmed.isIn_trim.trans hpart

/-- A sentence is a part of the text. -/
theorem isIn_of_mem_sentences {text : List Char} {p : Piece} (h : p ∈ sentences text) : p.IsIn 0 text := by
  obtain ⟨paragraph, hparagraph, hp⟩ := List.mem_flatMap.mp h
  have hin : paragraph.IsIn 0 text := by
    have hlocated := Piece.isIn_of_mem_locate hparagraph
    rwa [intercalate_paragraphTexts] at hlocated
  exact (isIn_of_mem_sentencesOf hp).trans hin

theorem pairwise_sentences (text : List Char) : (sentences text).Pairwise fun p q => p.span.stop ≤ q.start := by
  unfold sentences
  rw [List.pairwise_flatMap]
  refine ⟨fun paragraph _ => ?_, (Piece.pairwise_locate _ _ _ _).imp fun {a b} hab p hp q hq => ?_⟩
  · refine List.Pairwise.filter _ (List.pairwise_map.mpr ((Piece.pairwise_locate _ _ _ _).imp fun {p q} hpq => ?_))
    have hp : p.trim.span.stop ≤ p.span.stop := p.isIn_trim.bounds.2
    have hq : q.start ≤ q.trim.start := q.isIn_trim.bounds.1
    omega
  · have hstop : p.span.stop ≤ a.span.stop := (isIn_of_mem_sentencesOf hp).bounds.2
    have hstart : b.start ≤ q.start := (isIn_of_mem_sentencesOf hq).bounds.1
    omega

theorem isIn_of_mem_tokensFrom {start : Nat} {before : Option Char} {text : List Char} {p : Piece}
    (h : p ∈ tokensFrom start before text) : p.IsIn start text := by
  obtain ⟨-, front, back, htext, hstart, -⟩ := (tiles_tokensFrom start before text).of_mem h
  exact ⟨front, back, htext, hstart⟩

/-- A byte of a text at which a character starts, or the end of the text. -/
def IsBoundary (text : List Char) (byte : Nat) : Prop := ∃ front back, text = front ++ back ∧ byteLength front = byte

/-- Boundaries are the valid positions of the string. -/
theorem isBoundary_iff {text : String} {byte : Nat} :
    IsBoundary text.toList byte ↔ String.Pos.Raw.IsValid text ⟨byte⟩ := by
  rw [String.Pos.Raw.isValid_iff_exists_append]
  constructor
  · rintro ⟨front, back, htext, hbyte⟩
    refine ⟨String.ofList front, String.ofList back, ?_, ?_⟩
    · rw [← String.ofList_append, ← htext, String.ofList_toList]
    · exact String.Pos.Raw.ext (by rw [String.byteIdx_rawEndPos, utf8ByteSize_ofList, hbyte])
  · rintro ⟨front, back, rfl, hbyte⟩
    refine ⟨front.toList, back.toList, String.toList_append, ?_⟩
    have hsize : byte = front.utf8ByteSize := congrArg String.Pos.Raw.byteIdx hbyte
    rw [hsize, ← utf8ByteSize_ofList, String.ofList_toList]

theorem Piece.IsIn.boundaries {text : List Char} {p : Piece} (h : p.IsIn 0 text) :
    IsBoundary text p.span.start ∧ IsBoundary text p.span.stop := by
  obtain ⟨front, back, htext, hstart⟩ := h
  rw [Nat.zero_add] at hstart
  constructor
  · exact ⟨front, p.text ++ back, by rw [htext, List.append_assoc], hstart.symm⟩
  · exact ⟨front ++ p.text, back, htext, by rw [byteLength_append, ← hstart]; rfl⟩

/-- Spans of bytes that stand in a text one behind the other. -/
structure StandIn (text : List Char) (spans : List Span) : Prop where
  boundaries : ∀ b ∈ spans, IsBoundary text b.start ∧ IsBoundary text b.stop
  start_le_stop : ∀ b ∈ spans, b.start ≤ b.stop
  ordered : spans.Pairwise fun a b => a.stop ≤ b.start

/-- A later span neither starts nor stops before an earlier one. -/
theorem StandIn.mono {text : List Char} {spans : List Span} (h : StandIn text spans) {i j : Nat} (hij : i ≤ j)
    {a b : Span} (ha : spans[i]? = some a) (hb : spans[j]? = some b) : a.start ≤ b.start ∧ a.stop ≤ b.stop := by
  obtain ⟨hi, rfl⟩ := List.getElem?_eq_some_iff.mp ha
  obtain ⟨hj, rfl⟩ := List.getElem?_eq_some_iff.mp hb
  rcases Nat.eq_or_lt_of_le hij with rfl | hlt
  · exact ⟨Nat.le_refl _, Nat.le_refl _⟩
  · have hordered := List.pairwise_iff_getElem.mp h.ordered i j hi hj hlt
    have hfirst := h.start_le_stop _ (List.getElem_mem hi)
    have hlast := h.start_le_stop _ (List.getElem_mem hj)
    exact ⟨Nat.le_trans hfirst hordered, Nat.le_trans hordered hlast⟩

end Analysis

/-- The bytes of a token. -/
def Token.bytes (t : Token) : Span := ⟨t.start, t.stop⟩

namespace Analysis

theorem bytes_token (dictionary : Option Dictionary) (p : Piece) : (token dictionary p).bytes = p.span := by
  unfold Token.bytes Token.stop token Token.new Piece.span
  rw [utf8ByteSize_ofList]

theorem bytes_sentence (dictionary : Option Dictionary) (p : Piece) :
    (sentence dictionary p).tokens.map (·.bytes) = .empty p.start :: (tokens p).map (·.span) := by
  have hnumbered (tokens : List Token) : (Sentence.ofTokens tokens).tokens.map (·.bytes) = tokens.map (·.bytes) := by
    refine List.ext_getElem (by simp [Sentence.ofTokens]) fun i _ _ => ?_
    simp only [Sentence.ofTokens, List.getElem_map, List.getElem_mapIdx]
    rfl
  rw [sentence, hnumbered, List.map_cons, List.map_map]
  congr 1
  exact List.map_congr_left fun q _ => bytes_token dictionary q

theorem bounds_of_mem_sentence {dictionary : Option Dictionary} {p : Piece} {t : Token}
    (h : t ∈ (sentence dictionary p).tokens) : p.start ≤ t.start ∧ t.stop ≤ p.span.stop := by
  have hbytes : t.bytes ∈ Span.empty p.start :: (tokens p).map (·.span) := by
    rw [← bytes_sentence dictionary]
    exact List.mem_map_of_mem h
  show p.start ≤ t.bytes.start ∧ t.bytes.stop ≤ p.span.stop
  rcases List.mem_cons.mp hbytes with hopening | htoken
  · rw [hopening]
    exact ⟨Nat.le_refl _, Nat.le_add_right _ _⟩
  · obtain ⟨q, hq, hspan⟩ := List.mem_map.mp htoken
    rw [← hspan]
    exact (isIn_of_mem_tokensFrom hq).bounds

/-- The sentences of a text stand in it one behind the other. -/
theorem pairwise_analyze (dictionary : Option Dictionary) (text : String) :
    (analyze dictionary text).Pairwise fun s s' => ∀ t ∈ s.tokens, ∀ t' ∈ s'.tokens, t.stop ≤ t'.start := by
  refine List.pairwise_map.mpr ((pairwise_sentences _).imp fun {p q} hpq t ht t' ht' => ?_)
  have hstop := (bounds_of_mem_sentence ht).2
  have hstart := (bounds_of_mem_sentence ht').1
  omega

/-- The tokens of an analyzed sentence stand in the text, the empty one that opens it included. -/
theorem standIn_of_mem_analyze {dictionary : Option Dictionary} {text : String} {s : Sentence}
    (h : s ∈ analyze dictionary text) : StandIn text.toList (s.tokens.map (·.bytes)) := by
  obtain ⟨p, hp, rfl⟩ := List.mem_map.mp h
  have hin : p.IsIn 0 text.toList := isIn_of_mem_sentences hp
  rw [bytes_sentence]
  -- The first span is the empty one at the start of the sentence, the others are those of its tokens.
  have htokens (q) (hq : q ∈ tokens p) : q.IsIn p.start p.text := isIn_of_mem_tokensFrom hq
  refine ⟨?_, ?_, ?_⟩
  · rw [List.forall_mem_cons, List.forall_mem_map]
    exact ⟨⟨hin.boundaries.1, hin.boundaries.1⟩, fun q hq => ((htokens q hq).trans hin).boundaries⟩
  · rw [List.forall_mem_cons, List.forall_mem_map]
    exact ⟨Nat.le_refl _, fun q _ => Nat.le_add_right _ _⟩
  · rw [List.pairwise_cons, List.forall_mem_map, List.pairwise_map]
    refine ⟨fun q hq => ?_, (tiles_tokensFrom _ _ _).pairwise⟩
    obtain ⟨front, back, -, hstart⟩ := htokens q hq
    rw [Piece.span, hstart]
    exact Nat.le_add_right _ _

end Analysis

end GrammarCheck
