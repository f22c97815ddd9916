import GrammarCheck.Proofs.Disambiguation.Edits
import GrammarCheck.Proofs.Prefilter.Held
import GrammarCheck.Proofs.Success

/-! What disambiguation keeps. An action edits tokens under the marker of a match, one at a time, and each edit changes
their readings and marks alone: a token stays where it is, keeps its text, and has a reading still. -/

namespace GrammarCheck

open Success

/-- What may become of a token: it gets other readings, and marks that spare it from reports. -/
structure Token.RevisedTo (t t' : Token) : Prop where
  text : t'.text = t.text
  start : t'.start = t.start
  position : t'.position = t.position
  spaceBefore : t'.spaceBefore = t.spaceBefore
  readings : t.readings ≠ [] → t'.readings ≠ []
  immunized : t.immunized = true → t'.immunized = true
  ignoreSpelling : t.ignoreSpelling = true → t'.ignoreSpelling = true
  misspelled : t'.misspelled = true → t.misspelled = true

namespace Token

theorem RevisedTo.refl (t : Token) : t.RevisedTo t := ⟨rfl, rfl, rfl, rfl, id, id, id, id⟩

theorem RevisedTo.trans {t t' t'' : Token} (h : t.RevisedTo t') (h' : t'.RevisedTo t'') : t.RevisedTo t'' where
  text := h'.text.trans h.text
  start := h'.start.trans h.start
  position := h'.position.trans h.position
  spaceBefore := h'.spaceBefore.trans h.spaceBefore
  readings := h'.readings ∘ h.readings
  immunized := h'.immunized ∘ h.immunized
  ignoreSpelling := h'.ignoreSpelling ∘ h.ignoreSpelling
  misspelled := h.misspelled ∘ h'.misspelled

theorem revisedTo_setReadings (t : Token) (readings : List Reading) : t.RevisedTo (t.setReadings readings) := by
  have hreadings (h : t.readings ≠ []) := readings_setReadings_ne_nil h readings
  unfold setReadings at hreadings ⊢
  split
  · exact .refl t
  · rename_i hne
    rw [if_neg hne] at hreadings
    exact ⟨rfl, rfl, rfl, rfl, hreadings, id, id, id⟩

theorem revisedTo_addReading (t : Token) (reading : Reading) : t.RevisedTo (t.addReading reading) := by
  have hreadings (h : t.readings ≠ []) := readings_addReading_ne_nil h reading
  unfold addReading at hreadings ⊢
  split
  · exact .refl t
  · rename_i hnew
    rw [if_neg hnew] at hreadings
    exact ⟨rfl, rfl, rfl, rfl, hreadings, id, id, id⟩

theorem revisedTo_immunize (t : Token) : t.RevisedTo t.immunize :=
  ⟨rfl, rfl, rfl, rfl, id, fun _ => rfl, id, id⟩

theorem revisedTo_acceptSpelling (t : Token) : t.RevisedTo t.acceptSpelling :=
  ⟨rfl, rfl, rfl, rfl, id, id, fun _ => rfl, fun h => nomatch h⟩

end Token

namespace Action

/-- What an action does to one token. -/
inductive Edits : Action → (Token → Token) → Prop
  | retag (tag : Option String) : Edits (.replace [] tag) (retag tag)
  | replace {readings : List Reading} (tag : Option String) {reading : Reading} (h : reading ∈ readings) :
      Edits (.replace readings tag) fun t => t.setReadings [reading]
  | add {readings : List Reading} {reading : Reading} (h : reading ∈ readings) :
      Edits (.add readings) fun t => t.addReading reading
  | remove (target : Removal) (remove : Reading → Bool) : Edits (.remove target) fun t => t.removeReadings remove
  | filter (reference : Reference) :
      Edits (.filter reference) fun t => t.setReadings (reference.filterReadings t)
  | immunize : Edits .immunize Token.immunize
  | ignoreSpelling : Edits .ignoreSpelling Token.acceptSpelling

theorem Edits.revisedTo {a : Action} {f : Token → Token} (h : a.Edits f) (t : Token) : t.RevisedTo (f t) := by
  cases h with
  | retag tag => exact t.revisedTo_setReadings _
  | replace _ _ => exact t.revisedTo_setReadings _
  | add _ => exact t.revisedTo_addReading _
  | remove _ remove => exact t.revisedTo_setReadings _
  | filter reference => exact t.revisedTo_setReadings _
  | immunize => exact t.revisedTo_immunize
  | ignoreSpelling => exact t.revisedTo_acceptSpelling

end Action

namespace Sentence

variable {may may' : Nat → (Token → Token) → Prop} {s s' s'' : Sentence} {i j : Nat}

theorem token?_modifyToken_self (s : Sentence) (i : Nat) (f : Token → Token) :
    (s.modifyToken i f).token? i = (s.token? i).map f :=
  List.getElem?_modify_eq f i s.tokens

theorem token?_modifyToken_of_ne (h : j ≠ i) (s : Sentence) (f : Token → Token) :
    (s.modifyToken j f).token? i = s.token? i :=
  List.getElem?_modify_ne f s.tokens h

/-- A sentence after its index was read and tokens were changed, one at a time, each by a change that may be made at its
index. -/
inductive Edited (may : Nat → (Token → Token) → Prop) (s : Sentence) : Sentence → Prop
  | unchanged : Edited may s s
  | read {s' : Sentence} (h : Edited may s s') : Edited may s s'.withIndex
  | edit {s' : Sentence} {i : Nat} {f : Token → Token} (h : Edited may s s') (hedit : may i f) :
      Edited may s (s'.modifyToken i f)

theorem Edited.trans (h : Edited may s s') (h' : Edited may s' s'') : Edited may s s'' := by
  induction h' with
  | unchanged => exact h
  | read _ ih => exact .read ih
  | edit _ hedit ih => exact .edit ih hedit

theorem Edited.mono (h : Edited may s s') (hmay : ∀ i f, may i f → may' i f) : Edited may' s s' := by
  induction h with
  | unchanged => exact .unchanged
  | read _ ih => exact .read ih
  | edit _ hedit ih => exact .edit ih (hmay _ _ hedit)

/-- What each change keeps holds of the sentence afterwards. -/
theorem Edited.keeps {P : Sentence → Prop} (h : Edited may s s')
    (hP : ∀ s i f, may i f → P s → P (s.modifyToken i f)) (hread : ∀ s, P s → P s.withIndex) (hs : P s) : P s' := by
  induction h with
  | unchanged => exact hs
  | read _ ih => exact hread _ ih
  | edit _ hedit ih => exact hP _ _ _ hedit ih

theorem edited_editAll {edits : List TokenEdit} (hmay : ∀ e ∈ edits, may e.1 e.2) :
    Edited may s (s.editAll edits) := by
  induction edits generalizing s with
  | nil => exact .unchanged
  | cons e rest ih =>
    obtain ⟨hfirst, hrest⟩ := List.forall_mem_cons.mp hmay
    exact (Edited.edit .unchanged hfirst).trans (ih hrest)

end Sentence

namespace Action

variable {a : Action} {m : Match}

theorem edits_of_mem_edits : ∀ e ∈ a.edits m, a.Edits e.2 := by
  unfold edits
  cases a with
  | replace readings tag =>
    cases readings with
    | nil => exact List.forall_mem_singleton.mpr (.retag tag)
    | cons first rest => exact List.forall_mem_map.mpr fun _ hpair => .replace tag (List.of_mem_zip hpair).2
  | add readings => exact List.forall_mem_map.mpr fun _ hpair => .add (List.of_mem_zip hpair).2
  | remove target =>
    cases target with
    | perToken readings => exact List.forall_mem_map.mpr fun _ _ => .remove (.perToken readings) _
    | matching base tag => exact List.forall_mem_map.mpr fun _ _ => .remove (.matching base tag) _
  | filter reference => exact List.forall_mem_singleton.mpr (.filter reference)
  | unify => exact List.forall_mem_nil _
  | immunize => exact List.forall_mem_map.mpr fun _ _ => .immunize
  | ignoreSpelling => exact List.forall_mem_map.mpr fun _ _ => .ignoreSpelling

/-- The edits of an action on tokens under the markers of matches. -/
def EditsIn (a : Action) (ms : List Match) (i : Nat) (f : Token → Token) : Prop :=
  a.Edits f ∧ ∃ m ∈ ms, m.range.contains i = true

theorem editsIn_of_mem_edits {ms : List Match} (hm : m ∈ ms) (hfits : a.Fits m) :
    ∀ e ∈ a.edits m, a.EditsIn ms e.1 e.2 := by
  intro e he
  have hplace := Span.mem_indices.mp (fst_mem_of_mem_edits hfits e he)
  exact ⟨edits_of_mem_edits e he, m, hm, Span.contains_iff.mpr hplace⟩

theorem applyAll_edits (a : Action) (s : Sentence) (ms : List Match) :
    Sentence.Edited (a.EditsIn ms) s ((a.applyAll ms).leaves s) := by
  obtain ⟨before, hsub, hfits, hleaves⟩ := a.exists_leaves_applyAll ms
  rw [hleaves]
  refine Sentence.edited_editAll fun e he => ?_
  obtain ⟨m, hm, he⟩ := List.mem_flatMap.mp he
  exact editsIn_of_mem_edits (hsub hm) (hfits m hm) e he

end Action

namespace DisambiguationRule

/-- The edits that a rule may make in a sentence: those of its action under the markers of the matches found there. -/
def MayEdit (r : DisambiguationRule) (s : Sentence) (limit : Option Nat) (i : Nat) (f : Token → Token) : Prop :=
  ∃ ms, r.rule.findMatches s limit = .ok ms ∧ r.action.EditsIn ms i f

/-- A run leaves what the action on the matches leaves. -/
theorem fst_run_of_findMatches {r : DisambiguationRule} {s : Sentence} {limit : Option Nat} {ms : List Match}
    (h : r.rule.findMatches s limit = .ok ms) : (r.run s limit).1 = (r.action.applyAll ms).leaves s := by
  rw [run, h, Editing.leaves]
  dsimp only
  cases (r.action.applyAll ms).run s <;> rfl

theorem run_of_error {r : DisambiguationRule} {s : Sentence} {limit : Option Nat} {e : MatchError}
    (h : r.rule.findMatches s limit = .error e) : r.run s limit = (s, .error e) := by
  rw [run, h]

theorem run_edits (r : DisambiguationRule) (s : Sentence) (limit : Option Nat) :
    Sentence.Edited (r.MayEdit s limit) s (r.run s limit).1 := by
  cases hms : r.rule.findMatches s limit with
  | error e =>
    rw [run_of_error hms]
    exact .unchanged
  | ok ms =>
    rw [fst_run_of_findMatches hms]
    exact (r.action.applyAll_edits s ms).mono fun i f hedit => ⟨ms, hms, hedit⟩

theorem runIfNeeded_edits (r : DisambiguationRule) (s : Sentence) (limit : Option Nat) :
    Sentence.Edited (r.MayEdit s limit) s (runIfNeeded limit s r) := by
  unfold runIfNeeded
  dsimp only
  split
  · exact .read .unchanged
  · have hread : s.withIndex.tokens = s.tokens := rfl
    refine (Sentence.Edited.read .unchanged).trans ((r.run_edits s.withIndex limit).mono fun i f hedit => ?_)
    unfold MayEdit at hedit ⊢
    rwa [Rule.findMatches_congr hread] at hedit

variable {P : Sentence → Prop} {s : Sentence}

/-- A rule does nothing to a sentence but edit tokens. -/
theorem run_keeps (r : DisambiguationRule) (hP : ∀ s i f, r.action.Edits f → P s → P (s.modifyToken i f))
    (hread : ∀ s, P s → P s.withIndex) (h : P s) (limit : Option Nat) : P (r.run s limit).1 := by
  refine (r.run_edits s limit).keeps (fun s i f hedit => ?_) hread h
  obtain ⟨_, -, hf, -⟩ := hedit
  exact hP s i f hf

theorem runIfNeeded_keeps (r : DisambiguationRule) (hP : ∀ s i f, r.action.Edits f → P s → P (s.modifyToken i f))
    (hread : ∀ s, P s → P s.withIndex) (h : P s) (limit : Option Nat) : P (runIfNeeded limit s r) := by
  refine (r.runIfNeeded_edits s limit).keeps (fun s i f hedit => ?_) hread h
  obtain ⟨_, -, hf, -⟩ := hedit
  exact hP s i f hf

end DisambiguationRule

/-- The edits that a run of rules may make: each one is made by a rule in what the rules before it left. -/
def MayEditIn (rules : List DisambiguationRule) (limit : Option Nat) (s : Sentence) (i : Nat) (f : Token → Token) :
    Prop :=
  ∃ before r after, rules = before ++ r :: after ∧ r.MayEdit (disambiguate before limit s) limit i f

theorem disambiguate_edits (rules : List DisambiguationRule) (limit : Option Nat) (s : Sentence) :
    Sentence.Edited (MayEditIn rules limit s) s (disambiguate rules limit s) := by
  induction rules generalizing s with
  | nil => exact .unchanged
  | cons r rest ih =>
    have hfirst := (r.runIfNeeded_edits s limit).mono fun i f hedit =>
      (⟨[], r, rest, rfl, hedit⟩ : MayEditIn (r :: rest) limit s i f)
    refine hfirst.trans ((ih (DisambiguationRule.runIfNeeded limit s r)).mono fun i f hedit => ?_)
    obtain ⟨before, r', after, rfl, hedit⟩ := hedit
    exact ⟨r :: before, r', after, rfl, hedit⟩

theorem disambiguate_keeps {P : Sentence → Prop} {s : Sentence} {rules : List DisambiguationRule}
    (hP : ∀ r ∈ rules, ∀ s i f, r.action.Edits f → P s → P (s.modifyToken i f))
    (hread : ∀ s, P s → P s.withIndex) (h : P s) (limit : Option Nat) : P (disambiguate rules limit s) := by
  refine (disambiguate_edits rules limit s).keeps (fun s i f hedit => ?_) hread h
  obtain ⟨before, r, after, rfl, _, -, hf, -⟩ := hedit
  exact hP r (List.mem_append_right _ List.mem_cons_self) s i f hf

namespace Sentence

variable {may : Nat → (Token → Token) → Prop} {s s' : Sentence}

/-- What a change of a token keeps between it and the one it came from is kept between all tokens. -/
theorem forall₂_modifyToken {R : Token → Token → Prop} {tokens : List Token} (h : List.Forall₂ R tokens s.tokens)
    {f : Token → Token} (hf : ∀ t t', R t t' → R t (f t')) (i : Nat) :
    List.Forall₂ R tokens (s.modifyToken i f).tokens := by
  show List.Forall₂ R tokens (s.tokens.modify i f)
  generalize s.tokens = tokens' at h
  induction h generalizing i with
  | nil => cases i <;> exact .nil
  | cons hfirst hrest ih =>
    cases i with
    | zero => exact .cons (hf _ _ hfirst) hrest
    | succ i => exact .cons hfirst (ih i)

end Sentence

/-- The tokens stay in their order, and each one is revised at most. -/
theorem revisedTo_disambiguate (rules : List DisambiguationRule) (limit : Option Nat) (s : Sentence) :
    List.Forall₂ Token.RevisedTo s.tokens (disambiguate rules limit s).tokens := by
  refine disambiguate_keeps (P := fun s' => List.Forall₂ Token.RevisedTo s.tokens s'.tokens)
    (fun r _ s' i f hf h => ?_) (fun _ h => h) (List.forall₂_same.mpr fun t _ => .refl t) limit
  exact Sentence.forall₂_modifyToken h (fun t t' ht => ht.trans (hf.revisedTo t')) i

end GrammarCheck
