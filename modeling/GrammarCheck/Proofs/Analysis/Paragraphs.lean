import GrammarCheck.Proofs.Analysis.Coverage

/-! Texts of several paragraphs. What stands before a text moves its sentences and is no part of them, so two texts with
two newlines between them have the sentences of both. A newline at the seam may fall to either of them or be a paragraph
with another one, but it is blank wherever it falls. -/

namespace GrammarCheck

open Unicode (isWhitespace)

namespace Analysis

namespace Piece

/-- The piece, where its text stands behind another one of some bytes and with some last character. -/
def behind (bytes : Nat) (last : Option Char) (p : Piece) : Piece := ⟨bytes + p.start, p.text, p.before.or last⟩

theorem behind_behind (m n : Nat) (last last' : Option Char) (p : Piece) :
    (p.behind m last).behind n last' = p.behind (n + m) (last.or last') := by
  rw [behind, behind, behind, Nat.add_assoc, Option.or_assoc]

section Behind

variable (bytes : Nat) (last : Option Char)

theorem locate_behind (separator : List Char) (start : Nat) (before : Option Char) (texts : List (List Char)) :
    locate separator (bytes + start) (before.or last) texts =
      (locate separator start before texts).map (behind bytes last) := by
  induction texts generalizing start before with
  | nil => rfl
  | cons text rest ih =>
    rw [locate, locate, List.map_cons, ← ih, Nat.add_assoc, Option.or_assoc]
    rfl

theorem trimStart_behind (start : Nat) (before : Option Char) (text : List Char) :
    trimStart (bytes + start) (before.or last) text = (trimStart start before text).behind bytes last := by
  induction text generalizing start before with
  | nil => rfl
  | cons c rest ih =>
    rw [trimStart, trimStart]
    split
    · have hrest := ih (start + c.utf8Size) (some c)
      rwa [← Nat.add_assoc, Option.some_or] at hrest
    · rfl

theorem trim_behind (p : Piece) : (p.behind bytes last).trim = p.trim.behind bytes last := by
  unfold trim
  have hstart := trimStart_behind bytes last p.start p.before p.text
  rw [show trimStart (p.behind bytes last).start (p.behind bytes last).before (p.behind bytes last).text =
    (trimStart p.start p.before p.text).behind bytes last from hstart]
  rfl

end Behind

theorem locate_append (separator : List Char) (start : Nat) (before : Option Char) (front back : List (List Char)) :
    locate separator start before (front ++ back) = locate separator start before front ++
      locate separator (start + byteLength (front.flatMap (· ++ separator)))
        ((front.flatMap (· ++ separator)).getLast?.or before) back := by
  induction front generalizing start before with
  | nil => rfl
  | cons text rest ih =>
    rw [List.cons_append, locate, ih, locate, List.cons_append, List.flatMap_cons]
    simp only [byteLength_append, Nat.add_assoc, getLast?_append_or]

theorem text_trimStart (start : Nat) (before : Option Char) (text : List Char) :
    (trimStart start before text).text = text.dropWhile isWhitespace := by
  induction text generalizing start before with
  | nil => rfl
  | cons c rest ih =>
    rw [trimStart, List.dropWhile_cons]
    split
    · exact ih _ _
    · rfl

theorem trimStart_append {start : Nat} {before : Option Char} {text : List Char}
    (h : (trimStart start before text).text ≠ []) (more : List Char) :
    trimStart start before (text ++ more) =
      { trimStart start before text with text := (trimStart start before text).text ++ more } := by
  induction text generalizing start before with
  | nil => exact absurd rfl h
  | cons c rest ih =>
    rw [trimStart] at h
    rw [List.cons_append, trimStart, trimStart]
    split
    · rename_i hc
      rw [if_pos hc] at h
      exact ih h
    · rfl

/-- Trimmed pieces that have a text left. -/
def trimmed (pieces : List Piece) : List Piece := (pieces.map trim).filter (!·.text.isEmpty)

theorem trimmed_append (front back : List Piece) : trimmed (front ++ back) = trimmed front ++ trimmed back := by
  rw [trimmed, List.map_append, List.filter_append]
  rfl

theorem trimmed_of_blanks {start : Nat} {before : Option Char} {text : List Char}
    (h : ∀ c ∈ text, isWhitespace c = true) : trimmed [⟨start, text, before⟩] = [] := by
  have hempty : (trimStart start before text).text = [] := by
    rw [text_trimStart, List.dropWhile_eq_nil_iff]
    exact h
  have htrim : (trim ⟨start, text, before⟩).text = [] := by
    rw [trim, hempty]
    rfl
  rw [trimmed, List.map_singleton, List.filter_cons_of_neg (by rw [htrim]; decide), List.filter_nil]

/-- A blank at the end is cut off. -/
theorem trimmed_append_blank {c : Char} (hc : isWhitespace c = true) (start : Nat) (before : Option Char)
    (text : List Char) : trimmed [⟨start, text ++ [c], before⟩] = trimmed [⟨start, text, before⟩] := by
  by_cases h : (trimStart start before text).text = []
  · rw [text_trimStart, List.dropWhile_eq_nil_iff] at h
    have hboth : ∀ d ∈ text ++ [c], isWhitespace d = true :=
      List.forall_mem_append.mpr ⟨h, List.forall_mem_singleton.mpr hc⟩
    rw [trimmed_of_blanks hboth, trimmed_of_blanks h]
  · have hcut : Text.dropTrailing isWhitespace ((trimStart start before text).text ++ [c]) =
        Text.dropTrailing isWhitespace (trimStart start before text).text := List.rdropWhile_concat_pos _ _ _ hc
    have htrim : trim ⟨start, text ++ [c], before⟩ = trim ⟨start, text, before⟩ := by
      unfold trim
      dsimp only
      rw [trimStart_append h, hcut]
    rw [trimmed, trimmed, List.map_singleton, List.map_singleton, htrim]

end Piece

open Piece

theorem isTerminator_of_isWhitespace {c : Char} (h : isWhitespace c = true) : isTerminator c = false := by
  rw [Bool.eq_false_iff]
  intro hc
  simp only [isTerminator, Bool.or_eq_true, beq_iff_eq] at hc
  rcases hc with ((rfl | rfl) | rfl) | rfl <;> exact absurd h (by decide)

theorem sentenceTexts_ne_nil (ending : Bool) (text : List Char) : sentenceTexts ending text ≠ [] := by
  cases text with
  | nil => exact List.cons_ne_nil _ _
  | cons c rest =>
    rw [sentenceTexts]
    split
    · exact List.cons_ne_nil _ _
    · exact consHead_ne_nil _ _

/-- A character in front changes the first text only, whatever the last one ends with. -/
theorem exists_consHead_append (c : Char) (front : List (List Char)) (last : List Char) :
    ∃ front' last', ∀ ending more, consHead c (front ++ (last ++ ending) :: more) =
      front' ++ (last' ++ ending) :: more := by
  cases front with
  | nil => exact ⟨[], c :: last, fun _ _ => rfl⟩
  | cons first rest => exact ⟨(c :: first) :: rest, last, fun _ _ => rfl⟩

/-- A blank at the end belongs to the last sentence or stands behind it. -/
theorem sentenceTexts_append_blank {c : Char} (ending : Bool) (text : List Char) :
    ∃ front last, sentenceTexts ending text = front ++ [last] ∧
      (sentenceTexts ending (text ++ [c]) = front ++ [last ++ [c]] ∨
        sentenceTexts ending (text ++ [c]) = front ++ [last, [c]]) := by
  induction text generalizing ending with
  | nil =>
    refine ⟨[], [], rfl, ?_⟩
    rw [List.nil_append, sentenceTexts]
    split
    · exact Or.inr rfl
    · exact Or.inl rfl
  | cons d rest ih =>
    have hrest (ending : Bool) : ∃ front last, consHead d (sentenceTexts ending rest) = front ++ [last] ∧
        (consHead d (sentenceTexts ending (rest ++ [c])) = front ++ [last ++ [c]] ∨
          consHead d (sentenceTexts ending (rest ++ [c])) = front ++ [last, [c]]) := by
      obtain ⟨front, last, htext, hmore⟩ := ih ending
      obtain ⟨front', last', hhead⟩ := exists_consHead_append d front last
      have hown := hhead [] []
      have hjoined := hhead [c] []
      have hapart := hhead [] [[c]]
      rw [List.append_nil, List.append_nil] at hown hapart
      refine ⟨front', last', by rw [htext, hown], ?_⟩
      rcases hmore with hmore | hmore
      · exact Or.inl (by rw [hmore, hjoined])
      · exact Or.inr (by rw [hmore, hapart])
    rw [List.cons_append, sentenceTexts, sentenceTexts]
    split
    · obtain ⟨front, last, htext, hmore⟩ := hrest false
      refine ⟨[] :: front, last, by rw [htext, List.cons_append], ?_⟩
      rcases hmore with hmore | hmore
      · exact Or.inl (by rw [hmore, List.cons_append])
      · exact Or.inr (by rw [hmore, List.cons_append])
    · exact hrest _

theorem sentencesOf_eq (paragraph : Piece) :
    sentencesOf paragraph =
      trimmed (locate [] paragraph.start paragraph.before (sentenceTexts false paragraph.text)) := rfl

theorem sentencesOf_behind (bytes : Nat) (last : Option Char) (paragraph : Piece) :
    sentencesOf (paragraph.behind bytes last) = (sentencesOf paragraph).map (behind bytes last) := by
  have hlocated := locate_behind bytes last [] paragraph.start paragraph.before (sentenceTexts false paragraph.text)
  have htrim : trim ∘ behind bytes last = behind bytes last ∘ trim := funext (trim_behind bytes last)
  rw [sentencesOf_eq, sentencesOf_eq]
  unfold trimmed
  rw [show locate [] (paragraph.behind bytes last).start (paragraph.behind bytes last).before
      (sentenceTexts false (paragraph.behind bytes last).text) = _ from hlocated, List.map_map, htrim, ← List.map_map,
    List.filter_map]
  rfl

/-- A blank at the start of a paragraph is passed over. -/
theorem sentencesOf_cons_blank {c : Char} (hc : isWhitespace c = true) (start : Nat) (before : Option Char)
    (text : List Char) :
    sentencesOf ⟨start, c :: text, before⟩ = sentencesOf ⟨start + c.utf8Size, text, some c⟩ := by
  obtain ⟨first, rest, htexts⟩ := List.exists_cons_of_ne_nil (sentenceTexts_ne_nil false text)
  have hhead : sentenceTexts false (c :: text) = (c :: first) :: rest := by
    rw [sentenceTexts, Bool.false_and, if_neg Bool.false_ne_true, isTerminator_of_isWhitespace hc, Bool.false_and,
      Bool.or_false, htexts]
    rfl
  have htrim : trim ⟨start, c :: first, before⟩ = trim ⟨start + c.utf8Size, first, some c⟩ := by
    unfold trim
    dsimp only
    rw [trimStart, if_pos hc]
  rw [sentencesOf_eq, sentencesOf_eq, hhead, htexts, locate, locate]
  simp only [List.append_nil, byteLength_cons, getLast?_cons_or, ← Nat.add_assoc]
  rw [trimmed, trimmed, List.map_cons, List.map_cons, htrim]

/-- A blank at the end of a paragraph is cut off. -/
theorem sentencesOf_append_blank {c : Char} (hc : isWhitespace c = true) (start : Nat) (before : Option Char)
    (text : List Char) : sentencesOf ⟨start, text ++ [c], before⟩ = sentencesOf ⟨start, text, before⟩ := by
  obtain ⟨front, last, htexts, hmore⟩ := sentenceTexts_append_blank (c := c) false text
  rw [sentencesOf_eq, sentencesOf_eq, htexts, locate_append, trimmed_append]
  rcases hmore with hmore | hmore
  · rw [hmore, locate_append, trimmed_append, locate, locate, trimmed_append_blank hc]
    rfl
  · have hblank : ∀ d ∈ [c], isWhitespace d = true := List.forall_mem_singleton.mpr hc
    have hpair (a b : Piece) : trimmed [a, b] = trimmed [a] ++ trimmed [b] := trimmed_append [a] [b]
    rw [hmore, locate_append, trimmed_append, locate, locate, locate, hpair, trimmed_of_blanks hblank, List.append_nil]
    rfl

theorem flatMap_locate_paragraphTexts (bytes : Nat) (last : Option Char) (text : List Char) :
    (locate ['\n', '\n'] bytes last (paragraphTexts text)).flatMap sentencesOf =
      (sentences text).map (behind bytes last) := by
  have hlocated := locate_behind bytes last ['\n', '\n'] 0 none (paragraphTexts text)
  rw [Nat.add_zero, Option.none_or] at hlocated
  rw [hlocated, List.flatMap_map, sentences, paragraphs, List.map_flatMap]
  exact List.flatMap_congr fun paragraph _ => sentencesOf_behind bytes last paragraph

theorem isWhitespace_newline : isWhitespace '\n' = true := by decide

theorem sentencesOf_of_text_eq_nil (start : Nat) (before : Option Char) : sentencesOf ⟨start, [], before⟩ = [] := rfl

/-- A newline in front of a text moves its sentences. -/
theorem sentences_cons_newline (text : List Char) :
    sentences ('\n' :: text) = (sentences text).map (behind 1 (some '\n')) := by
  induction text with
  | nil => rfl
  | cons c rest ih =>
    by_cases hc : c = '\n'
    · -- The newlines are an empty paragraph, and what is behind them starts anew.
      subst hc
      have hparagraphs : paragraphTexts ('\n' :: '\n' :: rest) = [] :: paragraphTexts rest := rfl
      rw [ih, sentences, paragraphs, hparagraphs, locate, List.flatMap_cons, sentencesOf_of_text_eq_nil,
        List.nil_append, flatMap_locate_paragraphTexts, List.map_map]
      exact List.map_congr_left fun p _ => (behind_behind 1 1 (some '\n') (some '\n') p).symm
    · obtain ⟨first, others, htexts⟩ := List.exists_cons_of_ne_nil (paragraphTexts_ne_nil (c :: rest))
      have hparagraphs : paragraphTexts ('\n' :: c :: rest) = ('\n' :: first) :: others := by
        rw [paragraphTexts, htexts]
        · rfl
        · rintro _ - hrest
          exact hc (List.cons.inj hrest).1
      rw [sentences, paragraphs, hparagraphs, locate, List.flatMap_cons, sentencesOf_cons_blank isWhitespace_newline,
        ← flatMap_locate_paragraphTexts, htexts, locate, List.flatMap_cons]
      simp only [List.cons_append, byteLength_cons, getLast?_cons_or, ← Nat.add_assoc]
      rfl

/-- The paragraphs of two texts with two newlines between them are those of both, but for a newline at the end of the
first text. -/
theorem paragraphTexts_append (p q : List Char) :
    ∃ front last seam, (seam = [] ∨ seam = ['\n']) ∧ paragraphTexts p = front ++ [last ++ seam] ∧
      paragraphTexts (p ++ '\n' :: '\n' :: q) = front ++ last :: paragraphTexts (seam ++ q) := by
  fun_induction paragraphTexts p with
  | case1 => exact ⟨[], [], [], Or.inl rfl, rfl, rfl⟩
  | case2 rest ih =>
    obtain ⟨front, last, seam, hseam, hown, hboth⟩ := ih
    refine ⟨[] :: front, last, seam, hseam, by rw [hown, List.cons_append], ?_⟩
    rw [List.cons_append, List.cons_append, paragraphTexts, hboth, List.cons_append]
  | case3 c rest hpair ih =>
    by_cases hlast : c = '\n' ∧ rest = []
    · obtain ⟨rfl, rfl⟩ := hlast
      exact ⟨[], [], ['\n'], Or.inr rfl, rfl, rfl⟩
    · obtain ⟨front, last, seam, hseam, hown, hboth⟩ := ih
      obtain ⟨front', last', hhead⟩ := exists_consHead_append c front last
      have hboth' := hhead [] (paragraphTexts (seam ++ q))
      rw [List.append_nil, List.append_nil] at hboth'
      refine ⟨front', last', seam, hseam, by rw [hown, hhead], ?_⟩
      rw [List.cons_append, paragraphTexts, hboth, hboth']
      -- The character and the next one are no two newlines: not in the first text, and not over the seam.
      intro after hc hafter
      cases rest with
      | nil => exact hlast ⟨hc, rfl⟩
      | cons d others => exact hpair others hc (congrArg (· :: others) (List.cons.inj hafter).1)

theorem intercalate_concat (separator : List Char) (front : List (List Char)) (last : List Char) :
    separator.intercalate (front ++ [last]) = front.flatMap (· ++ separator) ++ last := by
  induction front with
  | nil => exact List.intercalate_singleton
  | cons text rest ih =>
    rw [List.cons_append, intercalate_cons_of_ne_nil (by simp), ih, List.flatMap_cons]
    simp only [List.append_assoc]

/-- The sentences of two texts with two newlines between them are those of the first text and, behind them, those of
the second one. -/
theorem sentences_append (p q : List Char) :
    sentences (p ++ '\n' :: '\n' :: q) =
      sentences p ++ (sentences q).map (behind (byteLength p + 2) (some '\n')) := by
  obtain ⟨front, last, seam, hseam, hown, hboth⟩ := paragraphTexts_append p q
  have hp : p = front.flatMap (· ++ ['\n', '\n']) ++ (last ++ seam) := by
    rw [← intercalate_concat, ← hown, intercalate_paragraphTexts]
  have hlength : byteLength p =
      byteLength (front.flatMap (· ++ ['\n', '\n'])) + (byteLength last + byteLength seam) := by
    conv_lhs => rw [hp, byteLength_append, byteLength_append]
  have hnewlines : byteLength ['\n', '\n'] = 2 := rfl
  have hbehind (before : Option Char) : (last ++ ['\n', '\n']).getLast?.or before = some '\n' := by
    rw [getLast?_append_or]
    rfl
  rw [sentences, sentences, paragraphs, paragraphs, hown, hboth, locate_append, locate_append, List.flatMap_append,
    List.flatMap_append, List.append_assoc, locate, locate, locate, List.flatMap_cons, List.flatMap_singleton,
    flatMap_locate_paragraphTexts, hbehind]
  rcases hseam with rfl | rfl
  · rw [List.append_nil, List.nil_append, byteLength_append, hnewlines, hlength, byteLength_nil, Nat.add_zero,
      Nat.zero_add, Nat.add_assoc]
  · rw [sentencesOf_append_blank isWhitespace_newline, List.singleton_append, sentences_cons_newline, List.map_map]
    have hcompose : behind (0 + byteLength (front.flatMap (· ++ ['\n', '\n'])) + byteLength (last ++ ['\n', '\n']))
        (some '\n') ∘ behind 1 (some '\n') = behind (byteLength p + 2) (some '\n') := by
      funext piece
      have hone : byteLength ['\n'] = 1 := rfl
      rw [Function.comp_apply, behind_behind, byteLength_append, hnewlines, hlength, hone, Option.some_or]
      congr 1
      omega
    rw [hcompose]

theorem joinWord_behind (bytes start : Nat) (last before : Option Char) (c : Char) (rest : List Char)
    (tokens : List Piece) :
    joinWord (bytes + start) c (before.or last) rest (tokens.map (behind bytes last)) =
      (joinWord start c before rest tokens).map (behind bytes last) := by
  cases rest with
  | nil => rfl
  | cons d after =>
    cases tokens with
    | nil => rfl
    | cons next others =>
      rw [List.map_cons, joinWord, joinWord]
      split
      · rfl
      · rfl

theorem tokensFrom_behind (bytes start : Nat) (last before : Option Char) (text : List Char) :
    tokensFrom (bytes + start) (before.or last) text = (tokensFrom start before text).map (behind bytes last) := by
  induction text generalizing start before with
  | nil => rfl
  | cons c rest ih =>
    have hrest := ih (start + c.utf8Size) (some c)
    rw [← Nat.add_assoc, Option.some_or] at hrest
    cases hkind : kindOf c with
    | blank => rw [tokensFrom_of_blank _ _ hkind, tokensFrom_of_blank _ _ hkind, hrest]
    | word => rw [tokensFrom_of_word _ _ hkind, tokensFrom_of_word _ _ hkind, hrest, joinWord_behind]
    | mark =>
      rw [tokensFrom_of_mark _ _ hkind, tokensFrom_of_mark _ _ hkind, hrest]
      rfl

namespace Tiles

variable {start : Nat} {before : Option Char} {text : List Char} {first : Piece} {others : List Piece}

/-- Before the first word is what the text starts behind, or a blank. -/
theorem before_first (h : Tiles start before text (first :: others)) :
    first.before = before ∨ first.before.any isWhitespace = true := by
  generalize hpieces : first :: others = pieces at h
  induction h with
  | nil => exact absurd hpieces (List.cons_ne_nil _ _)
  | blank hblank _ ih =>
    rcases ih hpieces with hbefore | hbefore
    · exact Or.inr (by rw [hbefore, Option.any_some, hblank])
    · exact Or.inr hbefore
  | word =>
    obtain ⟨rfl, -⟩ := List.cons.inj hpieces
    exact Or.inl rfl

/-- Before the other words there is a character. -/
theorem isSome_before (h : Tiles start before text (first :: others)) : ∀ p ∈ others, p.before.isSome = true := by
  generalize hpieces : first :: others = pieces at h
  induction h with
  | nil => exact absurd hpieces (List.cons_ne_nil _ _)
  | blank _ _ ih => exact ih hpieces
  | word hword _ hrest =>
    obtain ⟨-, rfl⟩ := List.cons.inj hpieces
    intro p hp
    obtain ⟨-, front, -, -, -, hbefore⟩ := hrest.of_mem hp
    rw [hbefore, List.getLast?_eq_some_getLast hword, Option.some_or, Option.isSome_or, Option.isSome_some,
      Bool.or_true]

end Tiles

end Analysis

/-- The token, some bytes further on. -/
def Token.moveBy (bytes : Nat) (t : Token) : Token := { t with start := bytes + t.start }

def Token.withSpace (t : Token) : Token := { t with spaceBefore := true }

namespace Sentence

def moveBy (bytes : Nat) (s : Sentence) : Sentence := { s with tokens := s.tokens.map (·.moveBy bytes) }

/-- The sentences, where a blank stands before the first word of the first one. It is the token behind the opening one. -/
def withSpace : List Sentence → List Sentence
  | [] => []
  | s :: rest => s.modifyToken 1 Token.withSpace :: rest

theorem moveBy_ofTokens (bytes : Nat) (tokens : List Token) :
    (ofTokens tokens).moveBy bytes = ofTokens (tokens.map (·.moveBy bytes)) := by
  refine congrArg (Sentence.mk · none) (List.ext_getElem (by simp [ofTokens]) fun i _ _ => ?_)
  simp only [ofTokens, List.getElem_map, List.getElem_mapIdx]
  rfl

theorem modifyToken_ofTokens (opening first : Token) (others : List Token) :
    (ofTokens (opening :: first :: others)).modifyToken 1 Token.withSpace =
      ofTokens (opening :: first.withSpace :: others) := by
  unfold modifyToken ofTokens
  simp only [List.mapIdx_cons, List.modify_succ_cons, List.modify_zero_cons]
  rfl

end Sentence

namespace Analysis

open Piece

variable (dictionary : Option Dictionary)

theorem token_behind {p : Piece} (h : p.before.isSome = true) (bytes : Nat) (last : Option Char) :
    token dictionary (p.behind bytes last) = (token dictionary p).moveBy bytes := by
  obtain ⟨c, hc⟩ := Option.isSome_iff_exists.mp h
  unfold token behind
  rw [hc, Option.some_or]
  rfl

theorem token_behind_blank {p : Piece} {c : Char} (hc : isWhitespace c = true)
    (h : p.before = none ∨ p.before.any isWhitespace = true) (bytes : Nat) :
    token dictionary (p.behind bytes (some c)) = ((token dictionary p).moveBy bytes).withSpace := by
  have hspace : (p.before.or (some c)).any isWhitespace = true := by
    rcases h with hnone | hblank
    · rw [hnone, Option.none_or, Option.any_some, hc]
    · obtain ⟨d, hd, hblank⟩ := (Option.any_eq_true _ _).mp hblank
      rw [hd, Option.some_or, Option.any_some, hblank]
  unfold token behind
  dsimp only
  rw [hspace]
  rfl

theorem sentence_behind (bytes : Nat) (last : Option Char) (p : Piece) :
    sentence dictionary (p.behind bytes last) =
      .ofTokens ((Token.moveBy bytes { Token.sentenceStart with start := p.start }) ::
        (tokens p).map fun t => token dictionary (t.behind bytes last)) := by
  have htokens : tokens (p.behind bytes last) = (tokens p).map (behind bytes last) := tokensFrom_behind _ _ _ _ _
  rw [sentence, htokens, List.map_map]
  rfl

/-- Behind another text, sentences are moved. -/
theorem sentence_behind_of_isSome {p : Piece} (h : ∀ t ∈ tokens p, t.before.isSome = true) (bytes : Nat)
    (last : Option Char) : sentence dictionary (p.behind bytes last) = (sentence dictionary p).moveBy bytes := by
  rw [sentence_behind, sentence, Sentence.moveBy_ofTokens, List.map_cons, List.map_map]
  exact congrArg (fun words => Sentence.ofTokens (_ :: words))
    (List.map_congr_left fun t ht => token_behind dictionary (h t ht) bytes last)

/-- Behind a blank, all words have a character before them, and the first one has a blank. -/
theorem map_sentence_behind (text : List Char) (bytes : Nat) {c : Char} (hc : isWhitespace c = true) :
    ((sentences text).map (behind bytes (some c))).map (sentence dictionary) =
      Sentence.withSpace (((sentences text).map (sentence dictionary)).map (·.moveBy bytes)) := by
  have htiles := tiles_sentences text
  have hopens (p : Piece) (hp : p ∈ sentences text) : ∃ first others, tokens p = first :: others := by
    obtain ⟨first, others, htokens, -⟩ := exists_first_token hp
    exact ⟨first, others, htokens⟩
  cases hsentences : sentences text with
  | nil => rfl
  | cons p rest =>
    rw [hsentences] at htiles hopens
    obtain ⟨first, others, htokens⟩ := hopens p List.mem_cons_self
    rw [List.flatMap_cons, htokens, List.cons_append] at htiles
    have hlater := htiles.isSome_before
    have hwords : (tokens p).map (fun t => token dictionary (t.behind bytes (some c))) =
        ((token dictionary first).moveBy bytes).withSpace :: others.map fun t => (token dictionary t).moveBy bytes := by
      rw [htokens, List.map_cons, token_behind_blank dictionary hc htiles.before_first]
      exact congrArg (_ :: ·) (List.map_congr_left fun t ht =>
        token_behind dictionary (hlater t (List.mem_append_left _ ht)) bytes (some c))
    have hfirst : sentence dictionary (p.behind bytes (some c)) =
        ((sentence dictionary p).moveBy bytes).modifyToken 1 Token.withSpace := by
      rw [sentence_behind, hwords, sentence, htokens, Sentence.moveBy_ofTokens, List.map_cons, List.map_cons,
        List.map_cons, Sentence.modifyToken_ofTokens, List.map_map]
      rfl
    rw [List.map_cons, List.map_cons, List.map_cons, List.map_cons, Sentence.withSpace, hfirst, List.map_map,
      List.map_map]
    refine congrArg (_ :: ·) (List.map_congr_left fun q hq => ?_)
    exact sentence_behind_of_isSome dictionary
      (fun t ht => hlater t (List.mem_append_right _ (List.mem_flatMap.mpr ⟨q, hq, ht⟩))) bytes (some c)

/-- A text of two parts with two newlines between them has the sentences of the first part and those of the second one,
moved behind it. -/
theorem analyze_append (p q : String) :
    analyze dictionary (p ++ "\n\n" ++ q) = analyze dictionary p ++
      Sentence.withSpace ((analyze dictionary q).map (·.moveBy (p.utf8ByteSize + 2))) := by
  have htext : (p ++ "\n\n" ++ q).toList = p.toList ++ '\n' :: '\n' :: q.toList := by
    rw [String.toList_append, String.toList_append, List.append_assoc]
    rfl
  have hlength : byteLength p.toList = p.utf8ByteSize := by rw [← utf8ByteSize_ofList, String.ofList_toList]
  rw [analyze, analyze, analyze, htext, sentences_append, List.map_append, hlength,
    map_sentence_behind dictionary q.toList _ isWhitespace_newline]

example : analyze none ("A.\n" ++ "\n\n" ++ "b c") =
    analyze none "A.\n" ++ [.ofTokens [{ Token.sentenceStart with start := 5 }, { Token.new "b" [] with start := 5 },
      { Token.new "c" [] with start := 7 }]] := by decide +kernel

end Analysis

end GrammarCheck
