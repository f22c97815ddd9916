import GrammarCheck.Proofs.Analysis.Coverage

/-! Opening tokens. Unless the dictionary gives their tag to a word, they are the only tokens of a text that have it. -/

namespace GrammarCheck.Analysis

variable {dictionary : Option Dictionary} {text : String} {s : Sentence}

/-- No word gets the tag of the tokens that open sentences. -/
def SparesStartTag (dictionary : Option Dictionary) : Prop :=
  ∀ d ∈ dictionary, ∀ form, ∀ reading ∈ d.lookup form, reading.tag ≠ some Token.sentenceStartTag

/-- A token that is one of the words of its sentence. -/
structure IsWord (t : Token) : Prop where
  inside : t.isSentenceStart = false
  read : t.readings ≠ []
  unspaced : ∀ c ∈ t.text.toList, Unicode.isWhitespace c = false

theorem isSentenceStart_token (h : SparesStartTag dictionary) (p : Piece) :
    (token dictionary p).isSentenceStart = false := by
  have hfound : ∀ reading ∈ (dictionary.map (·.lookupWord (String.ofList p.text))).getD [],
      reading.tag ≠ some Token.sentenceStartTag := by
    cases dictionary with
    | none => exact List.forall_mem_nil _
    | some d =>
      have hforms := h d rfl
      show ∀ reading ∈ d.lookupWord (String.ofList p.text), _
      unfold Dictionary.lookupWord
      dsimp only
      split
      · exact hforms _
      · exact hforms _
  show (token dictionary p).readings.any (·.tag == some Token.sentenceStartTag) = false
  rw [List.any_eq_false]
  intro reading hreading
  rw [beq_iff_eq]
  dsimp only [token, Token.new] at hreading
  split at hreading
  · rw [List.mem_singleton.mp hreading]
    exact fun h => nomatch h
  · exact hfound reading hreading

/-- A sentence is a token that opens it, a word, and maybe more words. -/
structure HasWords (s : Sentence) (opening first : Token) (others : List Token) : Prop where
  tokens : s.tokens = opening :: first :: others
  opens : opening.isSentenceStart = true
  words : ∀ t ∈ first :: others, IsWord t

namespace HasWords

variable {opening first : Token} {others : List Token}

theorem token?_zero (hs : HasWords s opening first others) : s.token? 0 = some opening := by
  rw [Sentence.token?, hs.tokens, List.getElem?_cons_zero]

theorem token?_succ (hs : HasWords s opening first others) (i : Nat) : s.token? (i + 1) = (first :: others)[i]? := by
  rw [Sentence.token?, hs.tokens, List.getElem?_cons_succ]

theorem token?_one (hs : HasWords s opening first others) : s.token? 1 = some first := hs.token?_succ 0

end HasWords

def IsWorded (s : Sentence) : Prop := ∃ opening first others, HasWords s opening first others

theorem isWorded_of_mem_analyze (h : SparesStartTag dictionary) (hs : s ∈ analyze dictionary text) : IsWorded s := by
  obtain ⟨opening, first, others, htokens, hopening, -⟩ := opens_of_mem_analyze hs
  refine ⟨opening, first, others, htokens, hopening, ?_⟩
  obtain ⟨p, -, rfl⟩ := List.mem_map.mp hs
  have htail : first :: others = (sentence dictionary p).tokens.tail := by rw [htokens, List.tail_cons]
  intro t ht
  rw [htail] at ht
  have hpiece : ∃ piece ∈ tokens p, ∃ i, t = { token dictionary piece with position := i } := by
    simp only [sentence, Sentence.ofTokens, List.mapIdx_cons, List.tail_cons, List.mem_mapIdx] at ht
    obtain ⟨i, hi, rfl⟩ := ht
    rw [List.length_map] at hi
    exact ⟨(tokens p)[i], List.getElem_mem hi, i + 1, by rw [List.getElem_map]⟩
  obtain ⟨piece, hpiece, i, rfl⟩ := hpiece
  constructor
  case inside => exact isSentenceStart_token h piece
  case read => exact Token.readings_new_ne_nil (String.ofList piece.text) _
  case unspaced =>
    have htext : (token dictionary piece).text = String.ofList piece.text := rfl
    show ∀ c ∈ (token dictionary piece).text.toList, _
    rw [htext, String.toList_ofList]
    have htiles : Tiles p.start p.before p.text (tokens p) := tiles_tokensFrom _ _ _
    exact (htiles.of_mem hpiece).1.2

end GrammarCheck.Analysis
