import GrammarCheck.Proofs.Analysis.SentenceEnds

/-! The text of a sentence is the part of the text that the sentence was made of, with one blank for each run of blanks
in it. No newline is left, and a blank stands only where there was one, so no run of marks comes to lie before a blank
that did not: the text is one sentence again. Words that touch each other still do, and those that did not still do
not, so its tokens are the same. -/

namespace GrammarCheck

open Unicode (isWhitespace)

namespace Analysis

/-- The text with one blank for each run of blanks, and none at its end. Blanks may be pending from before the text. -/
def respace (pending : Bool) : List Char → List Char
  | [] => []
  | c :: rest =>
    if isWhitespace c then respace true rest else (if pending then [' '] else []) ++ c :: respace false rest

theorem isWhitespace_space : isWhitespace ' ' = true := by decide

theorem kindOf_space : kindOf ' ' = .blank := rfl

section Respace

variable {c : Char} (rest : List Char)

theorem respace_of_blank (hc : isWhitespace c = true) (pending : Bool) :
    respace pending (c :: rest) = respace true rest := by
  rw [respace, if_pos hc]

theorem respace_cons (hc : isWhitespace c = false) (pending : Bool) :
    respace pending (c :: rest) = (if pending then [' '] else []) ++ c :: respace false rest := by
  rw [respace, hc, if_neg Bool.false_ne_true]

theorem respace_false_cons (hc : isWhitespace c = false) : respace false (c :: rest) = c :: respace false rest :=
  respace_cons rest hc false

theorem respace_true_cons (hc : isWhitespace c = false) :
    respace true (c :: rest) = ' ' :: respace false (c :: rest) := by
  rw [respace_cons rest hc true, respace_false_cons rest hc]
  rfl

end Respace

/-- No character is left that is a blank but a space. -/
theorem eq_space_of_mem_respace {pending : Bool} {text : List Char} {c : Char} (h : c ∈ respace pending text)
    (hc : isWhitespace c = true) : c = ' ' := by
  induction text generalizing pending with
  | nil => exact absurd h List.not_mem_nil
  | cons d rest ih =>
    cases hd : isWhitespace d with
    | true => exact ih (respace_of_blank rest hd pending ▸ h)
    | false =>
      have hbare : c ∈ respace false (d :: rest) → c = ' ' := by
        rw [respace_false_cons rest hd]
        intro hmem
        rcases List.mem_cons.mp hmem with rfl | hmem
        · exact absurd (hd.symm.trans hc) Bool.false_ne_true
        · exact ih hmem
      cases pending with
      | false => exact hbare h
      | true =>
        rw [respace_true_cons rest hd] at h
        exact (List.mem_cons.mp h).elim id hbare

theorem getLast?_respace_cons {d : Char} (hd : isWhitespace d = false) (pending : Bool) (rest : List Char) :
    (respace pending (d :: rest)).getLast? = some ((respace false rest).getLast?.getD d) := by
  cases pending with
  | false => rw [respace_false_cons rest hd, List.getLast?_cons]
  | true =>
    rw [respace_true_cons rest hd, respace_false_cons rest hd, List.getLast?_cons, List.getLast?_cons, Option.getD_some]

theorem isWhitespace_last_respace (pending : Bool) (text : List Char) :
    ∀ c ∈ (respace pending text).getLast?, isWhitespace c = false := by
  induction text generalizing pending with
  | nil => exact fun c hc => nomatch hc
  | cons d rest ih =>
    intro c hc
    cases hd : isWhitespace d with
    | true => exact ih true c (respace_of_blank rest hd pending ▸ hc)
    | false =>
      rw [getLast?_respace_cons hd, Option.mem_some_iff] at hc
      subst hc
      cases hlast : (respace false rest).getLast? with
      | none => exact hd
      | some e => exact ih false e hlast

/-- What a piece gives to its token besides the place: the text, and whether a blank stands before. -/
def Piece.word (p : Piece) : List Char × Bool := (p.text, p.before.any isWhitespace)

theorem joinWord_of_word {start : Nat} {c d : Char} {before : Option Char} {after : List Char} {next : Piece}
    {others : List Piece} (hd : kindOf d = .word) :
    joinWord start c before (d :: after) (next :: others) = ⟨start, c :: next.text, before⟩ :: others := by
  rw [joinWord, if_pos hd]

theorem joinWord_of_no_word {start : Nat} {c : Char} {before : Option Char} {rest : List Char} {tokens : List Piece}
    (h : ∀ d ∈ rest.head?, kindOf d ≠ .word) :
    joinWord start c before rest tokens = ⟨start, [c], before⟩ :: tokens := by
  unfold joinWord
  split
  · rename_i d after next others
    rw [if_neg (h d rfl)]
  · rfl

theorem map_word_joinWord {start start' : Nat} {c : Char} {before before' : Option Char} {rest rest' : List Char}
    {tokens tokens' : List Piece} (hbefore : before.any isWhitespace = before'.any isWhitespace)
    (hrest : (∃ d ∈ rest.head?, kindOf d = .word) ↔ ∃ d ∈ rest'.head?, kindOf d = .word)
    (htokens : tokens.map Piece.word = tokens'.map Piece.word) :
    (joinWord start c before rest tokens).map Piece.word =
      (joinWord start' c before' rest' tokens').map Piece.word := by
  have hsingle :
      (⟨start, [c], before⟩ :: tokens).map Piece.word = (⟨start', [c], before'⟩ :: tokens').map Piece.word := by
    rw [List.map_cons, List.map_cons, htokens, Piece.word, Piece.word, hbefore]
  by_cases hword : ∃ d ∈ rest.head?, kindOf d = .word
  · obtain ⟨d', hd', hkind'⟩ := hrest.mp hword
    obtain ⟨d, hd, hkind⟩ := hword
    obtain ⟨after, rfl⟩ := List.head?_eq_some_iff.mp hd
    obtain ⟨after', rfl⟩ := List.head?_eq_some_iff.mp hd'
    cases tokens with
    | nil =>
      obtain rfl := List.map_eq_nil_iff.mp htokens.symm
      exact hsingle
    | cons next others =>
      obtain ⟨next', others', rfl, hnext, hothers⟩ := List.map_eq_cons_iff.mp htokens.symm
      rw [joinWord_of_word hkind, joinWord_of_word hkind', List.map_cons, List.map_cons, hothers, Piece.word,
        Piece.word, hbefore, show next'.text = next.text from congrArg Prod.fst hnext]
  · have hnone : ∀ d ∈ rest.head?, kindOf d ≠ .word := fun d hd hkind => hword ⟨d, hd, hkind⟩
    have hnone' : ∀ d ∈ rest'.head?, kindOf d ≠ .word := fun d hd hkind => hword (hrest.mpr ⟨d, hd, hkind⟩)
    rw [joinWord_of_no_word hnone, joinWord_of_no_word hnone']
    exact hsingle

theorem kindOf_of_isWhitespace {c : Char} (h : isWhitespace c = true) : kindOf c = .blank := if_pos h

theorem eq_space_of_head_respace (text : List Char) : ∀ d ∈ (respace true text).head?, d = ' ' := by
  induction text with
  | nil => exact fun d hd => nomatch hd
  | cons c rest ih =>
    cases hc : isWhitespace c with
    | true =>
      rw [respace_of_blank rest hc]
      exact ih
    | false =>
      rw [respace_true_cons rest hc]
      exact fun d hd => (Option.some_inj.mp hd).symm

/-- A word goes on behind a character if it did. -/
theorem exists_word_head_respace (rest : List Char) :
    (∃ d ∈ (respace false rest).head?, kindOf d = .word) ↔ ∃ d ∈ rest.head?, kindOf d = .word := by
  cases rest with
  | nil => exact Iff.rfl
  | cons c after =>
    cases hc : isWhitespace c with
    | true =>
      rw [respace_of_blank after hc]
      refine iff_of_false ?_ ?_
      · rintro ⟨d, hd, hkind⟩
        rw [eq_space_of_head_respace after d hd, kindOf_space] at hkind
        cases hkind
      · rintro ⟨_, ⟨⟩, hkind⟩
        rw [kindOf_of_isWhitespace hc] at hkind
        cases hkind
    | false =>
      rw [respace_false_cons after hc]
      exact Iff.rfl

/-- Where the blanks are made one, the words are the same, and so are those with a blank before them. -/
theorem map_word_respace (start start' : Nat) {before before' : Option Char} {pending : Bool}
    (hpending : before.any isWhitespace = pending) (hbefore' : pending = false → before'.any isWhitespace = false)
    (text : List Char) :
    (tokensFrom start' before' (respace pending text)).map Piece.word =
      (tokensFrom start before text).map Piece.word := by
  induction text generalizing start start' before before' pending with
  | nil => rfl
  | cons c rest ih =>
    cases hc : isWhitespace c with
    | true =>
      rw [respace_of_blank rest hc, tokensFrom_of_blank start before (kindOf_of_isWhitespace hc)]
      exact ih _ _ hc (fun h => nomatch h)
    | false =>
      have hrest (s s' : Nat) : (tokensFrom s' (some c) (respace false rest)).map Piece.word =
          (tokensFrom s (some c) rest).map Piece.word := ih s s' hc fun _ => hc
      -- From the character on, whatever blank is put before it.
      have hbare (s : Nat) {before'' : Option Char} (hsame : before''.any isWhitespace = before.any isWhitespace) :
          (tokensFrom s before'' (c :: respace false rest)).map Piece.word =
            (tokensFrom start before (c :: rest)).map Piece.word := by
        cases hkind : kindOf c with
        | blank => exact absurd (hc.symm.trans (isWhitespace_of_kindOf_eq_blank hkind)) Bool.false_ne_true
        | mark =>
          rw [tokensFrom_of_mark _ _ hkind, tokensFrom_of_mark _ _ hkind, List.map_cons, List.map_cons, hrest,
            Piece.word, Piece.word, hsame]
        | word =>
          rw [tokensFrom_of_word _ _ hkind, tokensFrom_of_word _ _ hkind]
          exact map_word_joinWord hsame (exists_word_head_respace rest) (hrest _ _)
      cases pending with
      | false =>
        rw [respace_false_cons rest hc]
        exact hbare _ ((hbefore' rfl).trans hpending.symm)
      | true =>
        rw [respace_true_cons rest hc, respace_false_cons rest hc, tokensFrom_of_blank _ _ kindOf_space]
        exact hbare _ (isWhitespace_space.trans hpending.symm)

/-- The text of a token with a blank before it if one stood there. -/
def Piece.spaced (p : Piece) : List Char := (if p.before.any isWhitespace then [' '] else []) ++ p.text

/-- The texts of the tokens, each with its blank, are the text with one blank for each run. -/
theorem flatMap_spaced_tokensFrom (start : Nat) (before : Option Char) (text : List Char) :
    (tokensFrom start before text).flatMap Piece.spaced = respace (before.any isWhitespace) text := by
  induction text generalizing start before with
  | nil => rfl
  | cons c rest ih =>
    have hrest := ih (start + c.utf8Size) (some c)
    rw [Option.any_some] at hrest
    cases hkind : kindOf c with
    | blank =>
      have hc := isWhitespace_of_kindOf_eq_blank hkind
      rw [tokensFrom_of_blank _ _ hkind, hrest, hc, respace_of_blank rest hc]
    | mark =>
      have hc : isWhitespace c = false := isWhitespace_of_kindOf_ne_blank (by rw [hkind]; decide)
      rw [tokensFrom_of_mark _ _ hkind, List.flatMap_cons, hrest, hc, respace_cons rest hc, Piece.spaced,
        List.append_assoc, List.singleton_append]
    | word =>
      have hc : isWhitespace c = false := isWhitespace_of_kindOf_ne_blank (by rw [hkind]; decide)
      rw [tokensFrom_of_word _ _ hkind, respace_cons rest hc]
      rw [hc] at hrest
      rcases joinWord_cases start before c rest (tokensFrom (start + c.utf8Size) (some c) rest) with
        heq | ⟨d, after, next, others, rfl, hd, htokens, heq⟩
      · rw [heq, List.flatMap_cons, hrest, Piece.spaced, List.append_assoc, List.singleton_append]
      · -- The word behind starts just behind the character, so no blank is before it.
        have htiles := tiles_tokensFrom (start + c.utf8Size) (some c) (d :: after)
        obtain ⟨word, _, _, hpieces, -⟩ :=
          htiles.exists_first (isWhitespace_of_kindOf_ne_blank (by rw [hd]; decide))
        have hnext : next = ⟨start + c.utf8Size, d :: word, some c⟩ :=
          (List.cons.inj (htokens.symm.trans hpieces)).1
        rw [htokens, List.flatMap_cons, Piece.spaced, hnext, Option.any_some, hc, if_neg Bool.false_ne_true,
          List.nil_append] at hrest
        rw [heq, List.flatMap_cons, Piece.spaced, hnext, ← hrest, List.append_assoc, List.cons_append]

/-- Where a text starts with a character that is no blank, only the first token depends on what is before it. -/
theorem exists_tokensFrom_eq (start : Nat) {c : Char} (hc : isWhitespace c = false) (rest : List Char) :
    ∃ word others, word ≠ [] ∧ ∀ before, tokensFrom start before (c :: rest) = ⟨start, word, before⟩ :: others := by
  cases hkind : kindOf c with
  | blank => exact absurd (hc.symm.trans (isWhitespace_of_kindOf_eq_blank hkind)) Bool.false_ne_true
  | mark => exact ⟨[c], _, List.cons_ne_nil _ _, fun before => tokensFrom_of_mark start before hkind rest⟩
  | word =>
    have hword (before : Option Char) := tokensFrom_of_word start before hkind rest
    unfold joinWord at hword
    split at hword
    · split at hword
      · exact ⟨_, _, List.cons_ne_nil _ _, hword⟩
      · exact ⟨_, _, List.cons_ne_nil _ _, hword⟩
    · exact ⟨_, _, List.cons_ne_nil _ _, hword⟩

/-! What is one sentence stays one. -/

section OneSentence

variable {ending : Bool} {text front back rest : List Char} {c : Char}

theorem sentenceTexts_cons_eq_singleton_iff :
    sentenceTexts ending (c :: rest) = [c :: rest] ↔
      (ending && isWhitespace c) = false ∧
        sentenceTexts (isTerminator c || (ending && isClosing c)) rest = [rest] := by
  rw [sentenceTexts]
  split
  · rename_i hcut
    refine iff_of_false (fun h => ?_) fun h => Bool.false_ne_true (h.1.symm.trans hcut)
    exact List.cons_ne_nil _ _ (List.cons.inj h).1.symm
  · rename_i hkept
    obtain ⟨first, others, htexts⟩ :=
      List.exists_cons_of_ne_nil (sentenceTexts_ne_nil (isTerminator c || (ending && isClosing c)) rest)
    rw [htexts, and_iff_right (Bool.eq_false_iff.mpr hkept), consHead]
    simp only [List.cons.injEq, true_and]

theorem sentenceTexts_front_eq_singleton (h : sentenceTexts ending (front ++ back) = [front ++ back]) :
    sentenceTexts ending front = [front] := by
  induction front generalizing ending with
  | nil => rfl
  | cons c front ih =>
    obtain ⟨hkept, hrest⟩ := sentenceTexts_cons_eq_singleton_iff.mp h
    exact sentenceTexts_cons_eq_singleton_iff.mpr ⟨hkept, ih hrest⟩

theorem sentenceTexts_back_eq_singleton (hblank : ∀ c ∈ front, isWhitespace c = true)
    (h : sentenceTexts false (front ++ back) = [front ++ back]) : sentenceTexts false back = [back] := by
  induction front with
  | nil => exact h
  | cons c front ih =>
    obtain ⟨hc, hfront⟩ := List.forall_mem_cons.mp hblank
    obtain ⟨-, hrest⟩ := sentenceTexts_cons_eq_singleton_iff.mp h
    rw [isTerminator_of_isWhitespace hc] at hrest
    exact ih hfront hrest

/-- A text that was cut is not cut again. Only the first one may have marks just before it. -/
theorem sentenceTexts_of_sentenceTexts_eq {first : List Char} {others : List (List Char)}
    (h : sentenceTexts ending text = first :: others) :
    sentenceTexts ending first = [first] ∧ ∀ t ∈ others, sentenceTexts false t = [t] := by
  induction text generalizing ending first others with
  | nil =>
    obtain ⟨rfl, rfl⟩ := List.cons.inj h
    exact ⟨rfl, List.forall_mem_nil _⟩
  | cons c rest ih =>
    rw [sentenceTexts] at h
    split at h
    · rename_i hcut
      obtain ⟨next, later, htexts⟩ := List.exists_cons_of_ne_nil (sentenceTexts_ne_nil false rest)
      obtain ⟨hnext, hlater⟩ := ih htexts
      rw [htexts] at h
      obtain ⟨rfl, rfl⟩ := List.cons.inj h
      have hc := (Bool.and_eq_true_iff.mp hcut).2
      have hhead : sentenceTexts false (c :: next) = [c :: next] := by
        rw [sentenceTexts_cons_eq_singleton_iff, isTerminator_of_isWhitespace hc]
        exact ⟨rfl, hnext⟩
      exact ⟨rfl, List.forall_mem_cons.mpr ⟨hhead, hlater⟩⟩
    · rename_i hkept
      obtain ⟨next, later, htexts⟩ :=
        List.exists_cons_of_ne_nil (sentenceTexts_ne_nil (isTerminator c || (ending && isClosing c)) rest)
      obtain ⟨hnext, hlater⟩ := ih htexts
      rw [htexts] at h
      obtain ⟨rfl, rfl⟩ := List.cons.inj h
      exact ⟨sentenceTexts_cons_eq_singleton_iff.mpr ⟨Bool.eq_false_iff.mpr hkept, hnext⟩, hlater⟩

theorem sentenceTexts_of_mem_sentences {p : Piece} (h : p ∈ sentences text) :
    sentenceTexts false p.text = [p.text] := by
  obtain ⟨paragraph, -, hp⟩ := List.mem_flatMap.mp h
  obtain ⟨whole, hwhole, rfl⟩ := List.mem_map.mp (List.mem_of_mem_filter hp)
  have hmem : whole.text ∈ sentenceTexts false paragraph.text := by
    rw [← Piece.map_text_locate [] paragraph.start paragraph.before (sentenceTexts false paragraph.text)]
    exact List.mem_map_of_mem hwhole
  have hone : sentenceTexts false whole.text = [whole.text] := by
    obtain ⟨first, others, htexts⟩ := List.exists_cons_of_ne_nil (List.ne_nil_of_mem hmem)
    obtain ⟨hfirst, hothers⟩ := sentenceTexts_of_sentenceTexts_eq htexts
    rw [htexts] at hmem
    rcases List.mem_cons.mp hmem with heq | hmem
    · rw [heq, hfirst]
    · exact hothers _ hmem
  obtain ⟨lead, trail, htext, -, hlead, -, -, -⟩ := whole.isTrimOf_trim
  rw [htext] at hone
  exact sentenceTexts_back_eq_singleton hlead (sentenceTexts_front_eq_singleton hone)

/-- Making blanks one brings no run of marks before a blank. -/
theorem sentenceTexts_respace {pending : Bool} (hpending : pending = true → ending = false)
    (h : sentenceTexts ending text = [text]) :
    sentenceTexts ending (respace pending text) = [respace pending text] := by
  induction text generalizing ending pending with
  | nil => rfl
  | cons c rest ih =>
    obtain ⟨hkept, hrest⟩ := sentenceTexts_cons_eq_singleton_iff.mp h
    cases hc : isWhitespace c with
    | true =>
      rw [hc, Bool.and_true] at hkept
      subst hkept
      rw [isTerminator_of_isWhitespace hc] at hrest
      rw [respace_of_blank rest hc]
      exact ih (fun _ => rfl) hrest
    | false =>
      have hbare : sentenceTexts ending (respace false (c :: rest)) = [respace false (c :: rest)] := by
        rw [respace_false_cons rest hc, sentenceTexts_cons_eq_singleton_iff]
        exact ⟨hkept, ih (fun h => nomatch h) hrest⟩
      cases pending with
      | false => exact hbare
      | true =>
        obtain rfl := hpending rfl
        rw [respace_true_cons rest hc, sentenceTexts_cons_eq_singleton_iff,
          isTerminator_of_isWhitespace isWhitespace_space]
        exact ⟨rfl, hbare⟩

theorem paragraphTexts_eq_singleton (h : '\n' ∉ text) : paragraphTexts text = [text] := by
  fun_induction paragraphTexts text with
  | case1 => rfl
  | case2 rest ih => exact absurd List.mem_cons_self h
  | case3 c rest hpair ih =>
    rw [ih fun hmem => h (List.mem_cons_of_mem _ hmem)]
    rfl

theorem Piece.trim_eq_self {start : Nat} {before : Option Char} (hc : isWhitespace c = false)
    (hlast : ∀ d ∈ (c :: rest).getLast?, isWhitespace d = false) :
    Piece.trim ⟨start, c :: rest, before⟩ = ⟨start, c :: rest, before⟩ := by
  have hcut : Text.dropTrailing isWhitespace (c :: rest) = c :: rest := by
    refine List.rdropWhile_eq_self_iff.mpr fun hne => ?_
    rw [hlast _ (List.getLast?_eq_some_getLast hne)]
    exact Bool.false_ne_true
  rw [trim, trimStart, hc, if_neg Bool.false_ne_true, hcut]

/-- The text of a sentence, with its blanks made one, is one sentence from its start. -/
theorem sentences_respace {p : Piece} (h : p ∈ sentences text) :
    sentences (respace false p.text) = [⟨0, respace false p.text, none⟩] := by
  obtain ⟨c, rest, htext, hc⟩ := exists_head_of_mem_sentences h
  have hnewline : '\n' ∉ respace false p.text := fun hmem =>
    absurd (eq_space_of_mem_respace hmem isWhitespace_newline) (by decide)
  have hlast := isWhitespace_last_respace false p.text
  have hone : sentenceTexts false (respace false p.text) = [respace false p.text] :=
    sentenceTexts_respace (fun h => nomatch h) (sentenceTexts_of_mem_sentences h)
  rw [sentences, paragraphs, paragraphTexts_eq_singleton hnewline, Piece.locate, Piece.locate, List.flatMap_singleton,
    sentencesOf_eq]
  dsimp only
  rw [hone, Piece.locate, Piece.locate, Piece.trimmed, List.map_singleton]
  rw [htext, respace_false_cons rest hc] at hlast ⊢
  rw [Piece.trim_eq_self hc hlast]
  rfl

end OneSentence

end Analysis

namespace Sentence

variable {α : Type}

/-- What does not depend on the numbers of the tokens is the same after they are numbered. -/
theorem map_tokens_ofTokens (f : Token → α) (hf : ∀ t i, f { t with position := i } = f t) (tokens : List Token) :
    (ofTokens tokens).tokens.map f = tokens.map f := by
  refine List.ext_getElem (by simp [ofTokens]) fun i _ _ => ?_
  simp only [ofTokens, List.getElem_map, List.getElem_mapIdx]
  exact hf _ _

theorem joinTokens_true (tokens : List Token) :
    joinTokens true tokens = tokens.flatMap fun t => (if t.spaceBefore then [' '] else []) ++ t.text.toList := by
  induction tokens with
  | nil => rfl
  | cons t rest ih =>
    rw [joinTokens, Bool.and_true, Bool.true_or, ih]
    rfl

theorem joinTokens_congr {tokens tokens' : List Token}
    (h : tokens.map (fun t => (t.text, t.spaceBefore)) = tokens'.map fun t => (t.text, t.spaceBefore)) (begun : Bool) :
    joinTokens begun tokens = joinTokens begun tokens' := by
  induction tokens generalizing tokens' begun with
  | nil =>
    obtain rfl := List.map_eq_nil_iff.mp h.symm
    rfl
  | cons t rest ih =>
    obtain ⟨t', rest', rfl, ht, hrest⟩ := List.map_eq_cons_iff.mp h.symm
    obtain ⟨htext, hspace⟩ := Prod.mk.inj ht
    rw [joinTokens, joinTokens, htext, hspace, ih hrest.symm]

end Sentence

namespace Analysis

variable (dictionary : Option Dictionary)

/-- The text and the readings of a token with a text. -/
def content (text : List Char) : String × List Reading :=
  let t := token dictionary ⟨0, text, none⟩
  (t.text, t.readings)

theorem map_content_sentence (p : Piece) :
    (sentence dictionary p).tokens.map (fun t => (t.text, t.readings)) =
      (Token.sentenceStart.text, Token.sentenceStart.readings) ::
        ((tokens p).map (·.text)).map (content dictionary) := by
  rw [sentence, Sentence.map_tokens_ofTokens _ fun _ _ => rfl, List.map_cons, List.map_map, List.map_map]
  rfl

theorem map_spaceBefore_sentence (p : Piece) :
    (sentence dictionary p).tokens.map (·.spaceBefore) =
      false :: (tokens p).map fun q => q.before.any isWhitespace := by
  rw [sentence, Sentence.map_tokens_ofTokens _ fun _ _ => rfl, List.map_cons, List.map_map]
  rfl

/-- The token that opens a sentence has no text, so none has begun before the first word. -/
theorem joinTokens_sentence (p : Piece) :
    Sentence.joinTokens false (sentence dictionary p).tokens =
      Sentence.joinTokens false ((tokens p).map (token dictionary)) := by
  have hnumbered := Sentence.map_tokens_ofTokens (fun t => (t.text, t.spaceBefore)) (fun _ _ => rfl)
    ({ Token.sentenceStart with start := p.start } :: (tokens p).map (token dictionary))
  exact Sentence.joinTokens_congr hnumbered false

/-- The text of a sentence is the part that it was made of, with its blanks made one. -/
theorem toList_text_sentence {text : List Char} {p : Piece} (h : p ∈ sentences text) :
    (sentence dictionary p).text.toList = respace false p.text := by
  obtain ⟨c, rest, htext, hc⟩ := exists_head_of_mem_sentences h
  obtain ⟨word, others, hword, htokens⟩ := exists_tokensFrom_eq p.start hc rest
  rw [← htext] at htokens
  have hbegun : (String.ofList word).isEmpty = false := by
    rw [Bool.eq_false_iff]
    intro hempty
    have hnil := congrArg String.toList (String.isEmpty_iff.mp hempty)
    rw [String.toList_ofList] at hnil
    exact hword hnil
  have hothers : (others.map (token dictionary)).flatMap
      (fun t => (if t.spaceBefore then [' '] else []) ++ t.text.toList) = others.flatMap Piece.spaced := by
    rw [List.flatMap_map]
    refine List.flatMap_congr fun q _ => ?_
    rw [token, Token.new, String.toList_ofList]
    rfl
  have hfirst : (token dictionary ⟨p.start, word, p.before⟩).text = String.ofList word := rfl
  have hspaced := flatMap_spaced_tokensFrom p.start none p.text
  rw [htokens none, List.flatMap_cons] at hspaced
  rw [Sentence.text, String.toList_ofList, joinTokens_sentence, tokens, htokens p.before, List.map_cons,
    Sentence.joinTokens, Bool.and_false, if_neg Bool.false_ne_true, List.nil_append, hfirst, hbegun, Bool.not_false,
    Bool.or_true, Sentence.joinTokens_true, hothers, String.toList_ofList]
  exact hspaced

/-- The text of a sentence is analyzed into one sentence with the same words and readings. A blank stands before the
same words, but none before the first one. -/
theorem analyze_text_of_mem {text : String} {s : Sentence} (h : s ∈ analyze dictionary text) :
    ∃ s', analyze dictionary s.text = [s'] ∧ s'.tokens.length = s.tokens.length ∧
      s'.tokens.map (fun t => (t.text, t.readings)) = s.tokens.map (fun t => (t.text, t.readings)) ∧
      s'.tokens.map (·.spaceBefore) = (s.tokens.map (·.spaceBefore)).set 1 false := by
  obtain ⟨p, hp, rfl⟩ := List.mem_map.mp h
  obtain ⟨c, rest, htext, hc⟩ := exists_head_of_mem_sentences hp
  obtain ⟨word, others, -, htokens⟩ := exists_tokensFrom_eq p.start hc rest
  rw [← htext] at htokens
  have hpiece : tokens p = ⟨p.start, word, p.before⟩ :: others := htokens p.before
  have hwords : (tokens ⟨0, respace false p.text, none⟩).map Piece.word = (word, false) :: others.map Piece.word := by
    have hnone : (none : Option Char).any isWhitespace = false := rfl
    have hsame := map_word_respace p.start 0 hnone (fun _ => hnone) p.text
    rwa [htokens none] at hsame
  have htexts : (tokens ⟨0, respace false p.text, none⟩).map (·.text) = word :: others.map (·.text) := by
    simpa [Function.comp_def, Piece.word] using congrArg (List.map Prod.fst) hwords
  have hblanks : (tokens ⟨0, respace false p.text, none⟩).map (fun q => q.before.any isWhitespace) =
      false :: others.map fun q => q.before.any isWhitespace := by
    simpa [Function.comp_def, Piece.word] using congrArg (List.map Prod.snd) hwords
  have hcontent : (sentence dictionary ⟨0, respace false p.text, none⟩).tokens.map (fun t => (t.text, t.readings)) =
      (sentence dictionary p).tokens.map fun t => (t.text, t.readings) := by
    rw [map_content_sentence, map_content_sentence, htexts, hpiece]
    rfl
  refine ⟨sentence dictionary ⟨0, respace false p.text, none⟩, ?_, ?_, hcontent, ?_⟩
  · rw [analyze, toList_text_sentence dictionary hp, sentences_respace hp, List.map_singleton]
  · simpa using congrArg List.length hcontent
  · rw [map_spaceBefore_sentence, map_spaceBefore_sentence, hblanks, hpiece]
    rfl

/-- A sentence with blanks of many kinds, and one before its first word. -/
theorem analyze_text_of_mem_spaced :
    ∃ s ∈ analyze (some ⟨[("b", [.of "be" "V"])]⟩) "A.\n b\t (c)! ",
      s.text = "b (c)!" ∧ s.tokens.map (·.spaceBefore) = [false, true, true, false, false, false] ∧
      ∃ s', analyze (some ⟨[("b", [.of "be" "V"])]⟩) s.text = [s'] ∧ s'.tokens.length = s.tokens.length ∧
        s'.tokens.map (fun t => (t.text, t.readings)) = s.tokens.map (fun t => (t.text, t.readings)) ∧
        s'.tokens.map (·.spaceBefore) = [false, false, true, false, false, false] := by
  have hsecond : ((analyze (some ⟨[("b", [.of "be" "V"])]⟩) "A.\n b\t (c)! ")[1]?.map fun s =>
      (s.text, s.tokens.map (·.spaceBefore))) = some ("b (c)!", [false, true, true, false, false, false]) := by
    decide +kernel
  obtain ⟨s, hs, hrun⟩ := Option.map_eq_some_iff.mp hsecond
  obtain ⟨htext, hspaces⟩ := Prod.mk.inj hrun
  have hmem := List.mem_of_getElem? hs
  obtain ⟨s', hanalyzed, hlength, hcontent, hblanks⟩ := analyze_text_of_mem _ hmem
  rw [hspaces] at hblanks
  exact ⟨s, hmem, htext, hspaces, s', hanalyzed, hlength, hcontent, hblanks⟩

end Analysis

end GrammarCheck
