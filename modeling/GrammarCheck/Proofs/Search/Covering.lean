import GrammarCheck.Search.Point
import Mathlib.Data.List.Basic

/-! The smallest span around others. Empty spans do not count for it, so it is empty itself only if there is none. -/

namespace GrammarCheck

theorem Span.isEmpty_eq_false_iff {span : Span} : span.isEmpty = false ↔ span.start < span.stop := by
  rw [← Bool.not_eq_true, Span.isEmpty_iff, Nat.not_le]

instance : Std.Associative Span.union where
  assoc a b c := by simp only [Span.union, Nat.min_assoc, Nat.max_assoc]

/-- The cover of one more span. -/
def Span.cover (c : Option Span) (span : Span) : Option Span :=
  some (match c with
    | none => span
    | some c => c.union span)

variable {span c : Span} {spans : List Span}

theorem covering_eq_foldl : covering spans = (spans.filter (!·.isEmpty)).foldl Span.cover none := rfl

theorem covering_nil : covering [] = none := rfl

theorem covering_cons_of_isEmpty (h : span.isEmpty = true) : covering (span :: spans) = covering spans := by
  unfold covering
  rw [List.filter_cons_of_neg (by simp [h])]

theorem covering_cons_of_not_isEmpty (h : span.isEmpty = false) :
    covering (span :: spans) = some (((covering spans).map span.union).getD span) := by
  -- From the first span on, the cover is the union of all that come.
  have hunion (first : Span) (rest : List Span) : (first :: rest).foldl Span.cover none =
      some (rest.foldl Span.union first) := by
    rw [List.foldl_cons]
    show rest.foldl Span.cover (some first) = some (rest.foldl Span.union first)
    induction rest generalizing first with
    | nil => rfl
    | cons next rest ih => exact ih (first.union next)
  rw [covering_eq_foldl, covering_eq_foldl, List.filter_cons_of_pos (by simp [h]), hunion]
  cases spans.filter (!·.isEmpty) with
  | nil => rfl
  | cons first rest =>
    rw [hunion, List.foldl_cons]
    exact congrArg some List.foldl_assoc

theorem covering_eq_none_iff : covering spans = none ↔ ∀ span ∈ spans, span.isEmpty = true := by
  induction spans with
  | nil => simp [covering_nil]
  | cons first rest ih =>
    rw [List.forall_mem_cons, ← ih]
    cases hfirst : first.isEmpty with
    | true => simp [covering_cons_of_isEmpty hfirst]
    | false => simp [covering_cons_of_not_isEmpty hfirst]

theorem isEmpty_of_covering_eq_some (h : covering spans = some c) : c.isEmpty = false := by
  induction spans generalizing c with
  | nil => exact nomatch h
  | cons first rest ih =>
    cases hfirst : first.isEmpty with
    | true =>
      rw [covering_cons_of_isEmpty hfirst] at h
      exact ih h
    | false =>
      rw [covering_cons_of_not_isEmpty hfirst, Option.some_inj] at h
      rw [Span.isEmpty_eq_false_iff] at hfirst
      subst h
      cases covering rest with
      | none => exact Span.isEmpty_eq_false_iff.mpr hfirst
      | some c' =>
        have hstart : (first.union c').start ≤ first.start := Nat.min_le_left _ _
        have hstop : first.stop ≤ (first.union c').stop := Nat.le_max_left _ _
        exact Span.isEmpty_eq_false_iff.mpr (by rw [Option.map_some, Option.getD_some]; omega)

theorem le_of_covering_eq_some (h : covering spans = some c) (hspan : span ∈ spans) (hne : span.isEmpty = false) :
    c.start ≤ span.start ∧ span.stop ≤ c.stop := by
  induction spans generalizing c with
  | nil => exact absurd hspan List.not_mem_nil
  | cons first rest ih =>
    cases hfirst : first.isEmpty with
    | true =>
      rw [covering_cons_of_isEmpty hfirst] at h
      rcases List.mem_cons.mp hspan with rfl | hspan
      · exact absurd hne (by simp [hfirst])
      · exact ih h hspan
    | false =>
      rw [covering_cons_of_not_isEmpty hfirst, Option.some_inj] at h
      subst h
      cases hrest : covering rest with
      | none =>
        rcases List.mem_cons.mp hspan with rfl | hspan
        · exact ⟨Nat.le_refl _, Nat.le_refl _⟩
        · exact absurd hne (by simp [covering_eq_none_iff.mp hrest span hspan])
      | some c' =>
        rw [Option.map_some, Option.getD_some]
        rcases List.mem_cons.mp hspan with rfl | hspan
        · exact ⟨Nat.min_le_left _ _, Nat.le_max_left _ _⟩
        · obtain ⟨hstart, hstop⟩ := ih hrest hspan
          exact ⟨Nat.le_trans (Nat.min_le_right _ _) hstart, Nat.le_trans hstop (Nat.le_max_right _ _)⟩

/-- What lies around all spans that are not empty lies around their cover. -/
theorem covering_le (h : covering spans = some c) {low high : Nat}
    (hspans : ∀ span ∈ spans, span.isEmpty = false → low ≤ span.start ∧ span.stop ≤ high) :
    low ≤ c.start ∧ c.stop ≤ high := by
  induction spans generalizing c with
  | nil => cases h
  | cons first rest ih =>
    obtain ⟨hfirst, hrest⟩ := List.forall_mem_cons.mp hspans
    cases hempty : first.isEmpty with
    | true =>
      rw [covering_cons_of_isEmpty hempty] at h
      exact ih h hrest
    | false =>
      rw [covering_cons_of_not_isEmpty hempty, Option.some_inj] at h
      obtain ⟨hstart, hstop⟩ := hfirst hempty
      subst h
      cases hcovering : covering rest with
      | none => exact ⟨hstart, hstop⟩
      | some c' =>
        obtain ⟨hstart', hstop'⟩ := ih hcovering hrest
        exact ⟨Nat.le_min.mpr ⟨hstart, hstart'⟩, Nat.max_le.mpr ⟨hstop, hstop'⟩⟩

/-- The smallest span around those that are not empty. -/
structure Span.IsHull (spans : List Span) (c : Span) : Prop where
  around : ∀ span ∈ spans, span.isEmpty = false → c.start ≤ span.start ∧ span.stop ≤ c.stop
  least : ∀ d : Span, (∀ span ∈ spans, span.isEmpty = false → d.start ≤ span.start ∧ span.stop ≤ d.stop) →
    d.start ≤ c.start ∧ c.stop ≤ d.stop

theorem isHull_of_covering_eq_some (h : covering spans = some c) : c.IsHull spans where
  around _ hspan hne := le_of_covering_eq_some h hspan hne
  least _ hd := covering_le h hd

theorem covering_eq_some_of_isHull (h : c.IsHull spans) : covering spans = some c := by
  cases hcovering : covering spans with
  | none =>
    have hempty := covering_eq_none_iff.mp hcovering
    have hleast := h.least ⟨c.start + 1, c.stop⟩ fun span hspan hne => by simp [hempty span hspan] at hne
    exact absurd hleast.1 (Nat.not_succ_le_self c.start)
  | some c' =>
    have hown := isHull_of_covering_eq_some hcovering
    obtain ⟨hstart, hstop⟩ := h.least c' hown.around
    obtain ⟨hstart', hstop'⟩ := hown.least c h.around
    have hstarts : c'.start = c.start := Nat.le_antisymm hstart hstart'
    have hstops : c'.stop = c.stop := Nat.le_antisymm hstop' hstop
    cases c'
    cases c
    simp_all

end GrammarCheck
