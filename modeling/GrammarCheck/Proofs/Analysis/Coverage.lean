import GrammarCheck.Proofs.Analysis.Places
import GrammarCheck.Proofs.Success
import Mathlib.Data.List.DropRight

/-! The tokens of a text hold all of it but the blanks. Each pass cuts its part of the text into words without blanks,
and what it leaves out is blank: the newlines between paragraphs, and what is trimmed from the sentences. So the words
of the parts, one after another, are the words of the whole. -/

namespace GrammarCheck.Analysis

open Unicode (isWhitespace)

namespace Piece

variable {start : Nat} {before : Option Char} {text : List Char} {pieces : List Piece} {p : Piece}

theorem tiles_of_trimStart (h : Tiles (trimStart start before text).start (trimStart start before text).before
    (trimStart start before text).text pieces) : Tiles start before text pieces := by
  induction text generalizing start before with
  | nil => exact h
  | cons c rest ih =>
    rw [trimStart] at h
    split at h
    · rename_i hc
      exact .blank hc (ih h)
    · exact h

theorem tiles_of_trim (h : Tiles p.trim.start p.trim.before p.trim.text pieces) :
    Tiles p.start p.before p.text pieces := by
  refine tiles_of_trimStart ?_
  -- What is cut at the end stands behind the words, so nothing moves.
  have hblanks (start : Nat) (before : Option Char) :
      Tiles start before ((trimStart p.start p.before p.text).text.rtakeWhile isWhitespace) [] :=
    .of_blanks fun c hc => List.mem_rtakeWhile_imp hc
  have htext := h.append (hblanks _ _)
  rw [List.append_nil] at htext
  have hsplit : p.trim.text ++ (trimStart p.start p.before p.text).text.rtakeWhile isWhitespace =
      (trimStart p.start p.before p.text).text := List.rdropWhile_append_rtakeWhile
  rwa [hsplit] at htext

theorem isWhitespace_head_trimStart {c : Char} {rest : List Char} (h : (trimStart start before text).text = c :: rest) :
    isWhitespace c = false := by
  induction text generalizing start before with
  | nil => exact absurd h.symm (List.cons_ne_nil _ _)
  | cons d others ih =>
    rw [trimStart] at h
    split at h
    · exact ih h
    · rename_i hd
      obtain ⟨rfl, -⟩ := List.cons.inj h
      exact Bool.eq_false_iff.mpr hd

theorem isWhitespace_head_trim {c : Char} {rest : List Char} (h : p.trim.text = c :: rest) : isWhitespace c = false := by
  obtain ⟨back, hback⟩ := List.rdropWhile_prefix isWhitespace (trimStart p.start p.before p.text).text
  have htrim : p.trim.text ++ back = (trimStart p.start p.before p.text).text := hback
  rw [h, List.cons_append] at htrim
  exact isWhitespace_head_trimStart htrim.symm

/-- Words of parts between which there are blanks are words of the whole. -/
theorem tiles_locate {separator : List Char} (hseparator : ∀ c ∈ separator, isWhitespace c = true) (start : Nat)
    (before : Option Char) (f : Piece → List Piece) (texts : List (List Char))
    (h : ∀ p ∈ locate separator start before texts, Tiles p.start p.before p.text (f p)) :
    Tiles start before (separator.intercalate texts) ((locate separator start before texts).flatMap f) := by
  induction texts generalizing start before with
  | nil => exact .nil _ _
  | cons text rest ih =>
    rw [locate] at h ⊢
    obtain ⟨htext, hrest⟩ := List.forall_mem_cons.mp h
    have hnext := htext.append (Tiles.of_blanks hseparator)
    rw [List.append_nil] at hnext
    rw [List.flatMap_cons]
    cases rest with
    | nil =>
      rw [List.intercalate_singleton]
      simpa [locate] using htext
    | cons next others =>
      rw [List.intercalate_cons_cons]
      exact hnext.append (ih _ _ hrest)

end Piece

/-- A sentence that is left out has no tokens. -/
theorem flatMap_tokens_filter (pieces : List Piece) :
    (pieces.filter (!·.text.isEmpty)).flatMap tokens = pieces.flatMap tokens := by
  induction pieces with
  | nil => rfl
  | cons p pieces ih =>
    rw [List.filter_cons, List.flatMap_cons]
    split
    · rw [List.flatMap_cons, ih]
    · rename_i hempty
      have hp : p.text = [] := by simpa using hempty
      rw [ih, tokens, hp]
      rfl

theorem tiles_sentencesOf (paragraph : Piece) :
    Tiles paragraph.start paragraph.before paragraph.text ((sentencesOf paragraph).flatMap tokens) := by
  have hparts := Piece.tiles_locate (List.forall_mem_nil (isWhitespace · = true)) paragraph.start paragraph.before
    (fun p => tokens p.trim) (sentenceTexts false paragraph.text)
    fun p _ => Piece.tiles_of_trim (tiles_tokensFrom _ _ _)
  rw [intercalate_sentenceTexts] at hparts
  rw [sentencesOf, flatMap_tokens_filter, List.flatMap_map]
  exact hparts

theorem tiles_sentences (text : List Char) : Tiles 0 none text ((sentences text).flatMap tokens) := by
  have hnewline : isWhitespace '\n' = true := by decide
  have hnewlines : ∀ c ∈ ['\n', '\n'], isWhitespace c = true :=
    List.forall_mem_cons.mpr ⟨hnewline, List.forall_mem_singleton.mpr hnewline⟩
  have hparts := Piece.tiles_locate hnewlines 0 none (fun p => (sentencesOf p).flatMap tokens) (paragraphTexts text)
    fun p _ => tiles_sentencesOf p
  rw [intercalate_paragraphTexts] at hparts
  rw [sentences, List.flatMap_assoc]
  exact hparts

/-- A sentence starts with a character that is no blank. -/
theorem exists_head_of_mem_sentences {text : List Char} {p : Piece} (h : p ∈ sentences text) :
    ∃ c rest, p.text = c :: rest ∧ isWhitespace c = false := by
  obtain ⟨paragraph, -, hp⟩ := List.mem_flatMap.mp h
  obtain ⟨hp, hne⟩ := List.mem_filter.mp hp
  obtain ⟨whole, -, rfl⟩ := List.mem_map.mp hp
  obtain ⟨c, rest, htext⟩ := List.exists_cons_of_ne_nil (l := whole.trim.text) (by simpa using hne)
  exact ⟨c, rest, htext, Piece.isWhitespace_head_trim htext⟩

/-- A sentence has a token where it starts. -/
theorem exists_first_token {text : List Char} {p : Piece} (h : p ∈ sentences text) :
    ∃ first others, tokens p = first :: others ∧ first.start = p.start := by
  obtain ⟨c, rest, htext, hc⟩ := exists_head_of_mem_sentences h
  have htiles := tiles_tokensFrom p.start p.before p.text
  rw [htext] at htiles
  obtain ⟨word, after, others, htokens, -⟩ := htiles.exists_first hc
  rw [tokens, htext, htokens]
  exact ⟨_, _, rfl, rfl⟩

/-- The token is made of a piece of the text. -/
structure Piece.Makes (p : Piece) (t : Token) : Prop where
  text : t.text = String.ofList p.text
  start : t.start = p.start
  spaceBefore : t.spaceBefore = p.before.any isWhitespace

theorem Piece.Makes.bytes {p : Piece} {t : Token} (h : p.Makes t) : t.bytes = p.span := by
  rw [Token.bytes, Token.stop, h.text, h.start, utf8ByteSize_ofList, Piece.span]

theorem forall₂_tokens (dictionary : Option Dictionary) (p : Piece) :
    List.Forall₂ Piece.Makes (tokens p) (sentence dictionary p).tokens.tail := by
  rw [List.forall₂_iff_get]
  refine ⟨by simp [sentence, Sentence.ofTokens], fun i _ _ => ?_⟩
  simp only [sentence, Sentence.ofTokens, List.get_eq_getElem, List.getElem_tail, List.getElem_mapIdx,
    List.getElem_cons_succ, List.getElem_map]
  exact ⟨rfl, rfl, rfl⟩

/-- The tokens stand in the text one behind the other, and between them are blanks only. -/
structure Covers (text : List Char) (tokens : List Token) : Prop where
  nonempty : ∀ t ∈ tokens, t.start < t.stop
  ordered : tokens.Pairwise fun t u => t.stop ≤ u.start
  placed : ∀ t ∈ tokens, ∃ front back, text = front ++ t.text.toList ++ back ∧ t.start = byteLength front ∧
    (t.spaceBefore = true ↔ ∃ c, front.getLast? = some c ∧ isWhitespace c = true)
  unspaced : ∀ t ∈ tokens, ∀ c ∈ t.text.toList, isWhitespace c = false
  complete : ∀ front c back, text = front ++ c :: back → isWhitespace c = false →
    ∃! t, t ∈ tokens ∧ t.start ≤ byteLength front ∧ byteLength front + c.utf8Size ≤ t.stop

theorem eq_of_ordered {tokens : List Token} (h : tokens.Pairwise fun t u => t.stop ≤ u.start) {t u : Token} {byte : Nat}
    (ht : t ∈ tokens) (hu : u ∈ tokens) (htbyte : t.start ≤ byte ∧ byte < t.stop)
    (hubyte : u.start ≤ byte ∧ byte < u.stop) : t = u := by
  obtain ⟨earlier, later, rfl⟩ := List.append_of_mem hu
  obtain ⟨-, hlater, hearlier⟩ := List.pairwise_append.mp h
  rcases List.mem_append.mp ht with ht | ht
  · have hstop := hearlier t ht u List.mem_cons_self
    omega
  · rcases List.mem_cons.mp ht with rfl | ht
    · rfl
    · have hstop := (List.pairwise_cons.mp hlater).1 t ht
      omega

theorem covers_of_tiles {text : List Char} {pieces : List Piece} {tokens : List Token} (h : Tiles 0 none text pieces)
    (hmade : List.Forall₂ Piece.Makes pieces tokens) : Covers text tokens := by
  have hspans : pieces.map (·.span) = tokens.map (·.bytes) := by
    rw [← List.forall₂_eq_eq_eq, List.forall₂_map_left_iff, List.forall₂_map_right_iff]
    exact hmade.imp fun _ _ hmakes => hmakes.bytes.symm
  have hordered : (tokens.map (·.bytes)).Pairwise fun a b => a.stop ≤ b.start := by
    rw [← hspans, List.pairwise_map]
    exact h.pairwise
  rw [List.pairwise_map] at hordered
  constructor
  case nonempty =>
    intro t ht
    obtain ⟨p, hp, hmakes⟩ := Success.exists_of_mem_right hmade ht
    obtain ⟨c, rest, hword⟩ := List.exists_cons_of_ne_nil (h.of_mem hp).1.1
    show t.bytes.start < t.bytes.stop
    rw [hmakes.bytes, Piece.span, hword, byteLength_cons]
    have hpos := c.utf8Size_pos
    dsimp only
    omega
  case ordered => exact hordered
  case placed =>
    intro t ht
    obtain ⟨p, hp, hmakes⟩ := Success.exists_of_mem_right hmade ht
    obtain ⟨-, front, back, htext, hstart, hbefore⟩ := h.of_mem hp
    refine ⟨front, back, ?_, ?_, ?_⟩
    · rw [hmakes.text, String.toList_ofList, htext]
    · rw [hmakes.start, hstart, Nat.zero_add]
    · rw [hmakes.spaceBefore, hbefore, Option.or_none, Option.any_eq_true]
  case unspaced =>
    intro t ht
    obtain ⟨p, hp, hmakes⟩ := Success.exists_of_mem_right hmade ht
    rw [hmakes.text, String.toList_ofList]
    exact (h.of_mem hp).1.2
  case complete =>
    intro front c back htext hc
    rw [htext] at h
    obtain ⟨p, hp, hstart, hstop⟩ := h.exists_around hc
    have hspan : p.span ∈ tokens.map (·.bytes) := hspans ▸ List.mem_map_of_mem hp
    obtain ⟨t, ht, hbytes⟩ := List.mem_map.mp hspan
    rw [Nat.zero_add] at hstart hstop
    have hin : t.bytes.start ≤ byteLength front ∧ byteLength front + c.utf8Size ≤ t.bytes.stop := by
      rw [hbytes]
      exact ⟨hstart, hstop⟩
    refine ⟨t, ⟨ht, hin⟩, ?_⟩
    rintro u ⟨hu, hlow, hhigh⟩
    -- Both hold the first byte of the character.
    have hpos := c.utf8Size_pos
    exact eq_of_ordered hordered hu ht ⟨hlow, by omega⟩ ⟨hin.1, Nat.lt_of_lt_of_le (by omega) hin.2⟩

/-- A sentence opens with an empty token, which stands where its first word does. -/
def Opens (s : Sentence) : Prop :=
  ∃ opening first others, s.tokens = opening :: first :: others ∧ opening.isSentenceStart = true ∧
    opening.text = "" ∧ opening.start = first.start

theorem opens_of_mem_analyze {dictionary : Option Dictionary} {text : String} {s : Sentence}
    (h : s ∈ analyze dictionary text) : Opens s := by
  obtain ⟨p, hp, rfl⟩ := List.mem_map.mp h
  obtain ⟨first, others, htokens, hstart⟩ := exists_first_token hp
  refine ⟨{ Token.sentenceStart with start := p.start }, { token dictionary first with position := 1 },
    (others.map (token dictionary)).mapIdx fun i t => { t with position := i + 2 }, ?_, ?_, rfl, hstart.symm⟩
  · rw [sentence, htokens]
    simp only [Sentence.ofTokens, List.map_cons, List.mapIdx_cons]
    rfl
  · have hopening : Token.sentenceStart.isSentenceStart = true := by decide +kernel
    exact hopening

/-- The analysis loses nothing of a text but blanks, and the tokens that it adds are the empty ones. -/
theorem analyze_covers (dictionary : Option Dictionary) (text : String) :
    Covers text.toList ((analyze dictionary text).flatMap (·.tokens.tail)) ∧
      ∀ s ∈ analyze dictionary text, Opens s := by
  refine ⟨covers_of_tiles (tiles_sentences text.toList) ?_, fun s => opens_of_mem_analyze⟩
  rw [analyze, List.flatMap_map]
  induction sentences text.toList with
  | nil => exact List.Forall₂.nil
  | cons p ps ih =>
    rw [List.flatMap_cons, List.flatMap_cons]
    exact List.rel_append (forall₂_tokens dictionary p) ih

example : (analyze none "A b!) \n\nc.d").map (fun s => s.tokens.map fun t => (t.text, t.start, t.spaceBefore)) =
    [[("", 0, false), ("A", 0, false), ("b", 2, true), ("!", 3, false), (")", 4, false)],
      [("", 8, false), ("c", 8, true), (".", 9, false), ("d", 10, false)]] := by decide +kernel

end GrammarCheck.Analysis
