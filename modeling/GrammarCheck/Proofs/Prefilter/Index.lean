import GrammarCheck.Proofs.Disambiguation.Kept

/-! The index that a sentence may hold. It is dropped by each change of a token, so it never is the index of tokens
that are not there any more. -/

namespace GrammarCheck

namespace Sentence

/-- The index is the one of the tokens as they are. -/
def Coherent (s : Sentence) : Prop := s.index = .ofTokens s.tokens

theorem coherent_modifyToken (s : Sentence) (i : Nat) (f : Token → Token) : (s.modifyToken i f).Coherent :=
  s.index_modifyToken i f

theorem Coherent.withIndex {s : Sentence} (h : s.Coherent) : s.withIndex.Coherent := h

/-- Sentences as they come to be: made of tokens, with their index read, a token changed, or a disambiguation rule
run. -/
inductive Reached : Sentence → Prop
  | new (tokens : List Token) : Reached (ofTokens tokens)
  | read {s : Sentence} (h : Reached s) : Reached s.withIndex
  | edit {s : Sentence} (h : Reached s) (i : Nat) (f : Token → Token) : Reached (s.modifyToken i f)
  | rule {s : Sentence} (h : Reached s) (r : DisambiguationRule) (limit : Option Nat) : Reached (r.run s limit).1

theorem Reached.coherent {s : Sentence} (h : s.Reached) : s.Coherent := by
  induction h with
  | new tokens => rfl
  | read _ ih => exact ih.withIndex
  | edit _ i f _ => exact coherent_modifyToken _ i f
  | rule _ r limit ih =>
    exact r.run_keeps (fun s i f _ _ => coherent_modifyToken s i f) (fun _ => Coherent.withIndex) ih limit

end Sentence

end GrammarCheck
