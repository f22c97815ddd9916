import GrammarCheck.Disambiguation.Run
import Mathlib.Data.List.Basic

/-! What an action does in place. It counts the tokens of the match first. If they are those that it needs it edits tokens
under the marker, one at a time, and if not it fails before the first edit. -/

namespace GrammarCheck

/-- An index and what is done to the token there. -/
abbrev TokenEdit := Nat × (Token → Token)

namespace Sentence

def editAll (s : Sentence) (edits : List TokenEdit) : Sentence := edits.foldl (fun s e => s.modifyToken e.1 e.2) s

theorem editAll_append (s : Sentence) (edits edits' : List TokenEdit) :
    s.editAll (edits ++ edits') = (s.editAll edits).editAll edits' := List.foldl_append

theorem editAll_flatMap {α : Type} (s : Sentence) (items : List α) (edits : α → List TokenEdit) :
    s.editAll (items.flatMap edits) = items.foldl (fun s a => s.editAll (edits a)) s := List.foldl_flatMap

theorem modifyToken_comm {i j : Nat} (h : i ≠ j) (s : Sentence) (f g : Token → Token) :
    (s.modifyToken i f).modifyToken j g = (s.modifyToken j g).modifyToken i f := by
  simp only [modifyToken, List.modify_modify_ne f g s.tokens h]

theorem editAll_modifyToken {i : Nat} {edits : List TokenEdit} (h : ∀ e ∈ edits, e.1 ≠ i) (s : Sentence)
    (f : Token → Token) : (s.modifyToken i f).editAll edits = (s.editAll edits).modifyToken i f := by
  induction edits generalizing s with
  | nil => rfl
  | cons e rest ih =>
    obtain ⟨hfirst, hrest⟩ := List.forall_mem_cons.mp h
    show ((s.modifyToken i f).modifyToken e.1 e.2).editAll rest = ((s.modifyToken e.1 e.2).editAll rest).modifyToken i f
    rw [modifyToken_comm hfirst.symm, ih hrest]

/-- Edits at different indices may change places. -/
theorem editAll_comm {edits edits' : List TokenEdit} (h : ∀ e ∈ edits, ∀ e' ∈ edits', e.1 ≠ e'.1) (s : Sentence) :
    (s.editAll edits).editAll edits' = (s.editAll edits').editAll edits := by
  induction edits generalizing s with
  | nil => rfl
  | cons e rest ih =>
    obtain ⟨hfirst, hrest⟩ := List.forall_mem_cons.mp h
    show ((s.modifyToken e.1 e.2).editAll rest).editAll edits' = ((s.editAll edits').modifyToken e.1 e.2).editAll rest
    rw [ih hrest, editAll_modifyToken fun e' he' => (hfirst e' he').symm]

end Sentence

/-- The sentence that some work leaves, whether it was done or failed. -/
def Editing.leaves (work : Editing Unit) (s : Sentence) : Sentence :=
  match work.run s with
  | .ok _ s => s
  | .error _ s => s

namespace Action

/-- The match has the tokens that the action needs. -/
def Fits (m : Match) : Action → Prop
  | replace [] _ => m.range.size = 1
  | replace readings _ => m.range.size = readings.length
  | add readings => m.range.size = readings.length
  | remove (.perToken readings) => m.range.size = readings.length
  | filter _ => m.range.size = 1
  | unify => m.markerUnifiedTokens = m.range.size
  | _ => True

def spanEdits (span : Span) (f : Token → Token) : List TokenEdit := span.indices.map fun i => (i, f)

def eachEdits {α : Type} (span : Span) (items : List α) (f : α → Token → Token) : List TokenEdit :=
  (span.indices.zip items).map fun pair => (pair.1, f pair.2)

/-- The edits of an action on the tokens of a match, in order. -/
def edits (a : Action) (m : Match) : List TokenEdit :=
  match a with
  | .replace [] tag => [(m.range.start, retag tag)]
  | .replace readings _ => eachEdits m.range readings fun r t => t.setReadings [r]
  | .add readings => eachEdits m.range readings fun r t => t.addReading r
  | .remove (.perToken readings) =>
    eachEdits m.range readings fun r t => t.removeReadings ((Removal.perToken readings).removes (some r))
  | .remove target => spanEdits m.range (·.removeReadings (target.removes none))
  | .filter reference => [(m.range.start, fun t => t.setReadings (reference.filterReadings t))]
  | .unify => []
  | .immunize => spanEdits m.range Token.immunize
  | .ignoreSpelling => spanEdits m.range Token.acceptSpelling

variable {a : Action} {m : Match}

theorem fst_mem_of_mem_eachEdits {α : Type} {span : Span} {items : List α} {f : α → Token → Token} :
    ∀ e ∈ eachEdits span items f, e.1 ∈ span.indices :=
  List.forall_mem_map.mpr fun _ hpair => (List.of_mem_zip hpair).1

theorem start_mem_indices {span : Span} (h : span.size = 1) : span.start ∈ span.indices := by
  rw [Span.mem_indices]
  unfold Span.size at h
  omega

/-- All edits are made under the marker. -/
theorem fst_mem_of_mem_edits (hfits : a.Fits m) : ∀ e ∈ a.edits m, e.1 ∈ m.range.indices := by
  have hspan (f : Token → Token) : ∀ e ∈ spanEdits m.range f, e.1 ∈ m.range.indices :=
    List.forall_mem_map.mpr fun i hi => hi
  unfold edits
  cases a with
  | replace readings tag =>
    cases readings with
    | nil => exact List.forall_mem_singleton.mpr (start_mem_indices hfits)
    | cons first rest => exact fst_mem_of_mem_eachEdits
  | add readings => exact fst_mem_of_mem_eachEdits
  | remove target =>
    cases target with
    | perToken readings => exact fst_mem_of_mem_eachEdits
    | matching base tag => exact hspan _
  | filter reference => exact List.forall_mem_singleton.mpr (start_mem_indices hfits)
  | unify => exact List.forall_mem_nil _
  | immunize => exact hspan _
  | ignoreSpelling => exact hspan _

theorem run_forM_editToken {β : Type} (items : List β) (place : β → Nat) (change : β → Token → Token) (s : Sentence) :
    (items.forM fun b => editToken (place b) (change b)).run s =
      .ok () (s.editAll (items.map fun b => (place b, change b))) := by
  induction items generalizing s with
  | nil => rfl
  | cons b rest ih => exact ih (s.modifyToken (place b) (change b))

theorem run_editSpan (span : Span) (f : Token → Token) (s : Sentence) :
    (editSpan span f).run s = .ok () (s.editAll (spanEdits span f)) :=
  run_forM_editToken span.indices id (fun _ => f) s

theorem run_editEach {α : Type} (span : Span) (items : List α) (f : α → Token → Token) (s : Sentence) :
    (editEach span items f).run s = .ok () (s.editAll (eachEdits span items f)) :=
  run_forM_editToken (span.indices.zip items) Prod.fst (fun pair => f pair.2) s

/-- The sentence after an action on a match that fits it, and the failure on one that does not. -/
inductive Acts (a : Action) (m : Match) (s : Sentence) : EStateM.Result MatchError Sentence Unit → Prop
  | done (h : a.Fits m) : Acts a m s (.ok () (s.editAll (a.edits m)))
  | failed (h : ¬a.Fits m) (expected found : Nat) : Acts a m s (.error (.spanMismatch a.kind expected found) s)

theorem acts_of_expect {n : Nat} {work : Editing Unit} (hfits : a.Fits m ↔ m.range.size = n) {s : Sentence}
    (hwork : work.run s = .ok () (s.editAll (a.edits m))) :
    a.Acts m s ((do a.expect n m.range; work : Editing Unit).run s) := by
  by_cases hsize : m.range.size = n
  · rw [expect, if_pos hsize]
    show a.Acts m s (work.run s)
    rw [hwork]
    exact .done (hfits.mpr hsize)
  · rw [expect, if_neg hsize]
    exact .failed (fun h => hsize (hfits.mp h)) n m.range.size

/-- Each action counts before it edits. -/
theorem acts_apply (a : Action) (m : Match) (s : Sentence) : a.Acts m s ((a.apply m).run s) := by
  have hspan (f : Token → Token) (htrue : a.Fits m) (hedits : a.edits m = spanEdits m.range f) :
      a.Acts m s ((editSpan m.range f).run s) := by
    rw [run_editSpan, ← hedits]
    exact .done htrue
  cases a with
  | replace readings tag =>
    cases readings with
    | nil => exact acts_of_expect Iff.rfl rfl
    | cons first rest => exact acts_of_expect Iff.rfl (run_editEach _ _ _ s)
  | add readings => exact acts_of_expect Iff.rfl (run_editEach _ _ _ s)
  | remove target =>
    cases target with
    | perToken readings => exact acts_of_expect Iff.rfl (run_editEach _ _ _ s)
    | matching base tag => exact hspan _ trivial rfl
  | filter reference => exact acts_of_expect Iff.rfl rfl
  | unify =>
    by_cases hunified : m.markerUnifiedTokens = m.range.size
    · rw [apply, if_pos hunified]
      exact .done hunified
    · rw [apply, if_neg hunified]
      exact .failed (a := unify) hunified m.range.size m.markerUnifiedTokens
  | immunize => exact hspan _ trivial rfl
  | ignoreSpelling => exact hspan _ trivial rfl

theorem run_apply_of_fits (h : a.Fits m) (s : Sentence) : (a.apply m).run s = .ok () (s.editAll (a.edits m)) := by
  have hacts := acts_apply a m s
  generalize (a.apply m).run s = outcome at hacts
  cases hacts with
  | done => rfl
  | failed hnot => exact absurd h hnot

theorem run_apply_of_not_fits (h : ¬a.Fits m) (s : Sentence) :
    ∃ expected found, (a.apply m).run s = .error (.spanMismatch a.kind expected found) s := by
  have hacts := acts_apply a m s
  generalize (a.apply m).run s = outcome at hacts
  cases hacts with
  | done hfits => exact absurd hfits h
  | failed _ expected found => exact ⟨expected, found, rfl⟩

/-- Matches that fit are acted on before the others are looked at. -/
theorem run_applyAll_append {ms : List Match} (h : ∀ m ∈ ms, a.Fits m) (rest : List Match) (s : Sentence) :
    (a.applyAll (ms ++ rest)).run s = (a.applyAll rest).run (s.editAll (ms.flatMap a.edits)) := by
  induction ms generalizing s with
  | nil => rfl
  | cons m ms ih =>
    obtain ⟨hfirst, hothers⟩ := List.forall_mem_cons.mp h
    have hcons : a.applyAll (m :: ms ++ rest) = (a.apply m >>= fun _ => a.applyAll (ms ++ rest)) := rfl
    rw [hcons, EStateM.run_bind, run_apply_of_fits hfirst, List.flatMap_cons, Sentence.editAll_append]
    exact ih hothers (s.editAll (a.edits m))

theorem run_applyAll_of_fits {ms : List Match} (h : ∀ m ∈ ms, a.Fits m) (s : Sentence) :
    (a.applyAll ms).run s = .ok () (s.editAll (ms.flatMap a.edits)) := by
  have happend := run_applyAll_append h [] s
  rwa [List.append_nil] at happend

/-- The first match that does not fit fails in the sentence that the ones before it have left, and the run fails with it. -/
theorem run_applyAll_of_not_fits {before : List Match} (h : ∀ m ∈ before, a.Fits m) (hnot : ¬a.Fits m)
    (after : List Match) (s : Sentence) : ∃ expected found,
      (a.apply m).run (s.editAll (before.flatMap a.edits)) =
        .error (.spanMismatch a.kind expected found) (s.editAll (before.flatMap a.edits)) ∧
      (a.applyAll (before ++ m :: after)).run s =
        .error (.spanMismatch a.kind expected found) (s.editAll (before.flatMap a.edits)) := by
  obtain ⟨expected, found, herror⟩ := run_apply_of_not_fits hnot (s.editAll (before.flatMap a.edits))
  refine ⟨expected, found, herror, ?_⟩
  have hcons : a.applyAll (m :: after) = (a.apply m >>= fun _ => a.applyAll after) := rfl
  rw [run_applyAll_append h, hcons, EStateM.run_bind, herror]

/-- All matches fit, or there is a first one that does not. -/
theorem fits_or_exists_first (a : Action) (ms : List Match) : (∀ m ∈ ms, a.Fits m) ∨
    ∃ before m after, ms = before ++ m :: after ∧ (∀ m ∈ before, a.Fits m) ∧ ¬a.Fits m := by
  induction ms with
  | nil => exact Or.inl (List.forall_mem_nil _)
  | cons m rest ih =>
    by_cases hfits : a.Fits m
    · rcases ih with hall | ⟨before, m', after, rfl, hbefore, hnot⟩
      · exact Or.inl (List.forall_mem_cons.mpr ⟨hfits, hall⟩)
      · exact Or.inr ⟨m :: before, m', after, rfl, List.forall_mem_cons.mpr ⟨hfits, hbefore⟩, hnot⟩
    · exact Or.inr ⟨[], m, rest, rfl, List.forall_mem_nil _, hfits⟩

/-- What is left are the edits for the matches up to the first one that does not fit. -/
theorem exists_leaves_applyAll (a : Action) (ms : List Match) : ∃ before, before ⊆ ms ∧ (∀ m ∈ before, a.Fits m) ∧
    ∀ s, (a.applyAll ms).leaves s = s.editAll (before.flatMap a.edits) := by
  rcases a.fits_or_exists_first ms with hall | ⟨before, m, after, rfl, hbefore, hnot⟩
  · refine ⟨ms, List.Subset.refl ms, hall, fun s => ?_⟩
    rw [Editing.leaves, run_applyAll_of_fits hall]
  · refine ⟨before, List.subset_append_left before _, hbefore, fun s => ?_⟩
    obtain ⟨_, _, -, hrun⟩ := run_applyAll_of_not_fits hbefore hnot after s
    rw [Editing.leaves, hrun]

theorem forall_fits_of_run_applyAll_eq_ok {ms : List Match} {s s' : Sentence}
    (h : (a.applyAll ms).run s = .ok () s') : ∀ m ∈ ms, a.Fits m := by
  rcases a.fits_or_exists_first ms with hall | ⟨before, m, after, rfl, hbefore, hnot⟩
  · exact hall
  · obtain ⟨_, _, -, hrun⟩ := run_applyAll_of_not_fits hbefore hnot after s
    rw [hrun] at h
    cases h

end Action

end GrammarCheck
