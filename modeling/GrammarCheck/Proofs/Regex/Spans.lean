import GrammarCheck.Regex.Basic
import Mathlib.Data.List.Basic

/-! Which parts of a text an expression matches, said for each kind of expression by itself. Following all choices at
once finds just the ends of these parts: the places that a step leads to are kept in ascending order, and a loop
without a bound needs no more rounds than the text has characters, as rounds that take nothing can be left out. -/

namespace GrammarCheck.Regex

/-- A step taken a number of times. -/
def Rounds (step : Nat → Nat → Prop) : Nat → Nat → Nat → Prop
  | 0, i, j => i = j
  | n + 1, i, k => ∃ j, step i j ∧ Rounds step n j k

namespace Expr

/-- The expression matches what stands between two places of a text. -/
def Spans (text : Array Char) : Expr → Nat → Nat → Prop
  | .empty, i, j => i = j
  | .text cs, i, j => cs <+: text.toList.drop i ∧ j = i + cs.length
  | .chars set, i, j => (∃ c, text[i]? = some c ∧ set.hasChar c) ∧ j = i + 1
  | .look condition, i, j => condition.holdsAt text i ∧ i = j
  | .seq a b, i, k => ∃ j, a.Spans text i j ∧ b.Spans text j k
  | .either a b, i, j => a.Spans text i j ∨ b.Spans text i j
  | .group _ body, i, j => body.Spans text i j
  | .loop min max _ body, i, j =>
    ∃ n, min ≤ n ∧ (∀ m, max = some m → n ≤ m ∨ n = min) ∧ Rounds (body.Spans text) n i j

/-- The expressions match one after another. -/
def SpansAll (text : Array Char) : List Expr → Nat → Nat → Prop
  | [], i, j => i = j
  | e :: rest, i, k => ∃ j, e.Spans text i j ∧ SpansAll text rest j k

end Expr

/-- A step on ascending places leads from them to just the places that a relation names. -/
structure Follows (step : List Nat → List Nat) (R : Nat → Nat → Prop) : Prop where
  ascending : ∀ {places : List Nat}, places.Pairwise (· < ·) → (step places).Pairwise (· < ·)
  mem_iff : ∀ {places : List Nat} {j : Nat}, places.Pairwise (· < ·) → (j ∈ step places ↔ ∃ i ∈ places, R i j)

section Places

variable {places more : List Nat} {i j : Nat}

theorem takeWhile_lt (h : places.Pairwise (· < ·)) :
    places.takeWhile (· < i) = places.filter (· < i) := by
  induction places with
  | nil => rfl
  | cons a rest ih =>
    obtain ⟨above, hrest⟩ := List.pairwise_cons.mp h
    by_cases ha : a < i
    · simp [ha, ih hrest]
    · have none : ∀ b ∈ rest, ¬ b < i := by
        intro b hb
        have := above b hb
        omega
      simpa [ha] using none

theorem dropWhile_le (h : places.Pairwise (· < ·)) :
    places.dropWhile (· ≤ i) = places.filter (i < ·) := by
  induction places with
  | nil => rfl
  | cons a rest ih =>
    obtain ⟨above, hrest⟩ := List.pairwise_cons.mp h
    by_cases ha : a ≤ i
    · simp [ha, ih hrest, Nat.not_lt.mpr ha]
    · have all : ∀ b ∈ rest, i < b := by
        intro b hb
        have := above b hb
        omega
      rw [List.dropWhile_cons_of_neg (by simpa using ha), List.filter_eq_self.mpr]
      simpa [Nat.not_le.mp ha] using all

theorem mem_addPlaces (hmore : more.Pairwise (· < ·)) : j ∈ addPlaces places more ↔ j ∈ places ∨ j ∈ more := by
  induction places generalizing more with
  | nil => simp [addPlaces]
  | cons i rest ih =>
    have hlater : (more.filter (i < ·)).Pairwise (· < ·) := hmore.filter _
    rw [addPlaces, takeWhile_lt hmore, dropWhile_le hmore, List.mem_append, List.mem_cons, ih hlater, List.mem_cons]
    simp only [List.mem_filter, decide_eq_true_eq]
    by_cases hj : j ∈ more
    · have := Nat.lt_trichotomy j i
      tauto
    · tauto

theorem pairwise_addPlaces (hplaces : places.Pairwise (· < ·)) (hmore : more.Pairwise (· < ·)) :
    (addPlaces places more).Pairwise (· < ·) := by
  induction places generalizing more with
  | nil => exact hmore
  | cons i rest ih =>
    obtain ⟨above, hrest⟩ := List.pairwise_cons.mp hplaces
    have hlater : (more.filter (i < ·)).Pairwise (· < ·) := hmore.filter _
    have later : ∀ b ∈ addPlaces rest (more.filter (i < ·)), i < b := by
      intro b hb
      rcases (mem_addPlaces hlater).mp hb with hb | hb
      · exact above b hb
      · simpa using (List.mem_filter.mp hb).2
    rw [addPlaces, takeWhile_lt hmore, dropWhile_le hmore, List.pairwise_append]
    refine ⟨hmore.filter _, List.pairwise_cons.mpr ⟨later, ih hrest hlater⟩, ?_⟩
    intro a ha b hb
    have hai : a < i := by simpa using (List.mem_filter.mp ha).2
    rcases List.mem_cons.mp hb with rfl | hb
    · exact hai
    · exact Nat.lt_trans hai (later b hb)

theorem pairwise_advance (p : Nat → Bool) (h : places.Pairwise (· < ·)) :
    ((places.filter p).map (· + 1)).Pairwise (· < ·) :=
  (h.filter p).map _ fun _ _ => Nat.succ_lt_succ

end Places

section Rounds

variable {R : Nat → Nat → Prop} {i j k m n : Nat}

theorem rounds_add : Rounds R (m + n) i k ↔ ∃ j, Rounds R m i j ∧ Rounds R n j k := by
  induction m generalizing i with
  | zero => simp [Rounds]
  | succ m ih =>
    rw [Nat.succ_add, Rounds]
    simp only [ih, Rounds]
    tauto

theorem Rounds.mem_of_closed {places : List Nat} (h : Rounds R n i j)
    (closed : ∀ a ∈ places, ∀ b, R a b → b ∈ places) (hi : i ∈ places) : j ∈ places := by
  induction n generalizing i with
  | zero =>
    obtain rfl : i = j := h
    exact hi
  | succ n ih =>
    obtain ⟨a, hR, rounds⟩ := h
    exact ih rounds (closed i hi a hR)

/-- Rounds that stay where they are can be left out. -/
theorem Rounds.shorten (hR : ∀ a b, R a b → a ≤ b) (h : Rounds R n i j) :
    i ≤ j ∧ ∃ m, m ≤ j - i ∧ m ≤ n ∧ Rounds R m i j := by
  induction n generalizing i with
  | zero =>
    obtain rfl : i = j := h
    exact ⟨Nat.le_refl _, 0, Nat.zero_le _, Nat.le_refl _, rfl⟩
  | succ n ih =>
    obtain ⟨a, hia, haj⟩ := h
    obtain ⟨le, m, hm, hmn, hrounds⟩ := ih haj
    have hle := hR i a hia
    refine ⟨Nat.le_trans hle le, ?_⟩
    rcases Nat.eq_or_lt_of_le hle with rfl | hlt
    · exact ⟨m, hm, by omega, hrounds⟩
    · exact ⟨m + 1, by omega, by omega, a, hia, hrounds⟩

end Rounds

namespace Follows

variable {step : List Nat → List Nat} {R : Nat → Nat → Prop}

theorem times (h : Follows step R) (n : Nat) : Follows (Regex.times step n) (Rounds R n) := by
  induction n with
  | zero => exact ⟨id, by simp [Regex.times, Rounds]⟩
  | succ n ih =>
    have eq : ∀ places, Regex.times step (n + 1) places = Regex.times step n (step places) := by
      intro places
      rw [Regex.times]
      split_ifs with hfix
      · -- A step that changes nothing changes nothing later either.
        have still : ∀ m, Regex.times step m places = places := by
          intro m
          cases m with
          | zero => rfl
          | succ m => simp [Regex.times, hfix]
        rw [hfix, still]
      · rfl
    refine ⟨?_, ?_⟩
    · intro places hplaces
      rw [eq]
      exact ih.ascending (h.ascending hplaces)
    · intro places j hplaces
      rw [eq, ih.mem_iff (h.ascending hplaces)]
      simp only [h.mem_iff hplaces, Rounds]
      tauto

theorem reach_sound (h : Follows step R) {n : Nat} {seen new : List Nat} (hseen : seen.Pairwise (· < ·))
    (hnew : new.Pairwise (· < ·)) :
    (reach step n seen new).Pairwise (· < ·) ∧
      ∀ j ∈ reach step n seen new, j ∈ seen ∨ ∃ m, m ≤ n ∧ ∃ i ∈ new, Rounds R m i j := by
  induction n generalizing seen new with
  | zero => exact ⟨hseen, fun j hj => .inl hj⟩
  | succ n ih =>
    have hnext : ((step new).filter (!seen.contains ·)).Pairwise (· < ·) := (h.ascending hnew).filter _
    rw [reach]
    split_ifs with hempty
    · exact ⟨hseen, fun j hj => .inl hj⟩
    · obtain ⟨ascending, sound⟩ := ih (pairwise_addPlaces hseen hnext) hnext
      refine ⟨ascending, ?_⟩
      have one : ∀ a ∈ (step new).filter (!seen.contains ·), ∃ i ∈ new, R i a := by
        intro a ha
        exact (h.mem_iff hnew).mp (List.mem_filter.mp ha).1
      intro j hj
      rcases sound j hj with hj | ⟨m, hm, a, ha, rounds⟩
      · rcases (mem_addPlaces hnext).mp hj with hj | hj
        · exact .inl hj
        · obtain ⟨i, hi, hR⟩ := one j hj
          exact .inr ⟨1, by omega, i, hi, j, hR, rfl⟩
      · obtain ⟨i, hi, hR⟩ := one a ha
        exact .inr ⟨m + 1, by omega, i, hi, a, hR, rounds⟩

theorem reach_complete (h : Follows step R) {n : Nat} {seen new : List Nat} (hseen : seen.Pairwise (· < ·))
    (hnew : new.Pairwise (· < ·)) (old : ∀ i ∈ seen, i ∉ new → ∀ j, R i j → j ∈ seen) {m i j : Nat} (hm : m ≤ n)
    (hi : i ∈ seen) (hj : Rounds R m i j) : j ∈ reach step n seen new := by
  induction n generalizing seen new m i with
  | zero =>
    obtain rfl : m = 0 := by omega
    obtain rfl : i = j := hj
    exact hi
  | succ n ih =>
    have hnext : ((step new).filter (!seen.contains ·)).Pairwise (· < ·) := (h.ascending hnew).filter _
    have one : ∀ a ∈ seen, ∀ b, R a b → b ∈ seen ∨ b ∈ (step new).filter (!seen.contains ·) := by
      intro a ha b hR
      by_cases hb : b ∈ seen
      · exact .inl hb
      · by_cases hnew' : a ∈ new
        · exact .inr (List.mem_filter.mpr ⟨(h.mem_iff hnew).mpr ⟨a, hnew', hR⟩, by simpa using hb⟩)
        · exact absurd (old a ha hnew' b hR) hb
    rw [reach]
    split_ifs with hempty
    · -- Nothing new can be reached, so the places seen are closed under the step.
      have closed : ∀ a ∈ seen, ∀ b, R a b → b ∈ seen := by
        intro a ha b hR
        have hb := one a ha b hR
        rw [List.isEmpty_iff.mp hempty] at hb
        simpa using hb
      exact hj.mem_of_closed closed hi
    · have hadded := pairwise_addPlaces hseen hnext
      have old' : ∀ a ∈ addPlaces seen ((step new).filter (!seen.contains ·)),
          a ∉ (step new).filter (!seen.contains ·) → ∀ b, R a b →
            b ∈ addPlaces seen ((step new).filter (!seen.contains ·)) := by
        intro a ha hanew b hR
        have haseen : a ∈ seen := ((mem_addPlaces hnext).mp ha).resolve_right hanew
        exact (mem_addPlaces hnext).mpr (one a haseen b hR)
      cases m with
      | zero =>
        exact ih hadded hnext old' (Nat.zero_le _) ((mem_addPlaces hnext).mpr (.inl hi)) hj
      | succ m =>
        obtain ⟨a, hR, hj⟩ := hj
        exact ih hadded hnext old' (by omega) ((mem_addPlaces hnext).mpr (one i hi a hR)) hj

theorem reach (h : Follows step R) (n : Nat) :
    Follows (fun places => Regex.reach step n places places) fun i j => ∃ m, m ≤ n ∧ Rounds R m i j := by
  refine ⟨fun hplaces => (h.reach_sound hplaces hplaces).1, ?_⟩
  intro places j hplaces
  constructor
  · intro hj
    rcases (h.reach_sound hplaces hplaces).2 j hj with hj | ⟨m, hm, i, hi, rounds⟩
    · exact ⟨j, hj, 0, Nat.zero_le _, rfl⟩
    · exact ⟨i, hi, m, hm, rounds⟩
  · rintro ⟨i, hi, m, hm, rounds⟩
    exact h.reach_complete hplaces hplaces (fun a ha hne => absurd ha hne) hm hi rounds

end Follows

namespace Expr

variable {text : Array Char} {i j : Nat}

theorem cons_isPrefix_drop {c : Char} {cs : List Char} :
    (c :: cs) <+: text.toList.drop i ↔ text[i]? = some c ∧ cs <+: text.toList.drop (i + 1) := by
  rw [← Array.getElem?_toList, ← List.tail_drop]
  have head : text.toList[i]? = (text.toList.drop i).head? := by simp
  rw [head]
  cases text.toList.drop i with
  | nil => simp
  | cons d rest => simp [List.cons_prefix_cons, eq_comm]

theorem follows_textEnds (cs : List Char) :
    Follows (textEnds text cs) fun i j => cs <+: text.toList.drop i ∧ j = i + cs.length := by
  induction cs with
  | nil =>
    refine ⟨id, ?_⟩
    intro places j _
    simp [textEnds]
  | cons c cs ih =>
    have step : ∀ places, textEnds text (c :: cs) places =
        textEnds text cs ((places.filter fun i => text[i]? == some c).map (· + 1)) := fun _ => rfl
    refine ⟨?_, ?_⟩
    · intro places hplaces
      rw [step]
      exact ih.ascending (pairwise_advance _ hplaces)
    · intro places j hplaces
      rw [step, ih.mem_iff (pairwise_advance _ hplaces)]
      constructor
      · rintro ⟨a, ha, hcs, rfl⟩
        obtain ⟨i, hi, rfl⟩ := List.mem_map.mp ha
        obtain ⟨hi, hc⟩ := List.mem_filter.mp hi
        refine ⟨i, hi, cons_isPrefix_drop.mpr ⟨by simpa using hc, hcs⟩, ?_⟩
        simp only [List.length_cons]
        omega
      · rintro ⟨i, hi, hcs, rfl⟩
        obtain ⟨hc, hcs⟩ := cons_isPrefix_drop.mp hcs
        refine ⟨i + 1, List.mem_map.mpr ⟨i, List.mem_filter.mpr ⟨hi, by simpa using hc⟩, rfl⟩, hcs, ?_⟩
        simp only [List.length_cons]
        omega

/-- A match does not run backwards, and one that takes a character keeps within the text. -/
theorem Spans.le {e : Expr} (h : e.Spans text i j) : i ≤ j ∧ (i < j → j ≤ text.size) := by
  induction e generalizing i j with
  | empty =>
    obtain rfl : i = j := h
    simp
  | text cs =>
    obtain ⟨hcs, rfl⟩ := h
    have := hcs.length_le
    simp only [List.length_drop, Array.length_toList] at this
    omega
  | chars set =>
    obtain ⟨⟨c, hc, -⟩, rfl⟩ := h
    have := (Array.getElem?_eq_some_iff.mp hc).1
    omega
  | look condition =>
    obtain ⟨-, rfl⟩ := h
    simp
  | seq a b iha ihb =>
    obtain ⟨x, ha, hb⟩ := h
    have := iha ha
    have := ihb hb
    omega
  | either a b iha ihb =>
    rcases h with h | h
    · exact iha h
    · exact ihb h
  | group index body ih => exact ih h
  | loop min max greedy body ih =>
    obtain ⟨n, -, -, rounds⟩ := h
    induction n generalizing i with
    | zero =>
      obtain rfl : i = j := rounds
      simp
    | succ n ihn =>
      obtain ⟨x, hx, rounds⟩ := rounds
      have := ih hx
      have := ihn rounds
      omega

/-- A loop goes its fewest rounds, and then as many more as it may and the text has room for. -/
theorem spans_loop {min : Nat} {max : Option Nat} {greedy : Bool} {body : Expr} :
    (Expr.loop min max greedy body).Spans text i j ↔ ∃ k, Rounds (body.Spans text) min i k ∧
      ∃ m, m ≤ (match max with | none => text.size + 1 | some most => most - min) ∧
        Rounds (body.Spans text) m k j := by
  rw [Spans]
  constructor
  · rintro ⟨n, hmin, hmax, rounds⟩
    rw [← Nat.add_sub_cancel' hmin] at rounds
    obtain ⟨k, first, second⟩ := rounds_add.mp rounds
    refine ⟨k, first, ?_⟩
    cases max with
    | some most =>
      refine ⟨n - min, ?_, second⟩
      have := hmax most rfl
      show n - min ≤ most - min
      omega
    | none =>
      obtain ⟨le, m, hm, -, short⟩ := second.shorten fun a b h => h.le.1
      refine ⟨m, ?_, short⟩
      have whole : Spans text (.loop 0 none true body) k j := ⟨m, Nat.zero_le _, by simp, short⟩
      have := whole.le.2
      show m ≤ text.size + 1
      omega
  · rintro ⟨k, first, m, hm, second⟩
    refine ⟨min + m, Nat.le_add_right _ _, ?_, rounds_add.mpr ⟨k, first, second⟩⟩
    rintro most rfl
    have : m ≤ most - min := hm
    omega

theorem follows_ends (text : Array Char) (e : Expr) : Follows (e.ends text) (e.Spans text) := by
  induction e with
  | empty => exact ⟨id, by simp [ends, Spans]⟩
  | text cs => exact follows_textEnds cs
  | chars set =>
    refine ⟨fun h => pairwise_advance _ h, ?_⟩
    intro places j _
    simp only [ends, Spans, List.mem_map, List.mem_filter, Option.any_eq_true]
    constructor
    · rintro ⟨i, ⟨hi, c, hc⟩, rfl⟩
      exact ⟨i, hi, ⟨c, hc⟩, rfl⟩
    · rintro ⟨i, hi, ⟨c, hc⟩, rfl⟩
      exact ⟨i, ⟨hi, c, hc⟩, rfl⟩
  | look condition =>
    refine ⟨fun h => h.filter _, ?_⟩
    intro places j _
    simp only [ends, Spans, List.mem_filter]
    constructor
    · rintro ⟨hj, holds⟩
      exact ⟨j, hj, holds, rfl⟩
    · rintro ⟨i, hi, holds, rfl⟩
      exact ⟨hi, holds⟩
  | seq a b iha ihb =>
    refine ⟨fun h => ihb.ascending (iha.ascending h), ?_⟩
    intro places j hplaces
    simp only [ends, Spans, ihb.mem_iff (iha.ascending hplaces), iha.mem_iff hplaces]
    tauto
  | either a b iha ihb =>
    refine ⟨fun h => pairwise_addPlaces (iha.ascending h) (ihb.ascending h), ?_⟩
    intro places j hplaces
    simp only [ends, Spans, mem_addPlaces (ihb.ascending hplaces), iha.mem_iff hplaces, ihb.mem_iff hplaces]
    constructor
    · rintro (⟨i, hi, h⟩ | ⟨i, hi, h⟩)
      · exact ⟨i, hi, .inl h⟩
      · exact ⟨i, hi, .inr h⟩
    · rintro ⟨i, hi, h | h⟩
      · exact .inl ⟨i, hi, h⟩
      · exact .inr ⟨i, hi, h⟩
  | group index body ih => exact ⟨ih.ascending, ih.mem_iff⟩
  | loop min max greedy body ih =>
    have start := ih.times min
    have extra := ih.reach (match max with | none => text.size + 1 | some m => m - min)
    refine ⟨fun h => extra.ascending (start.ascending h), ?_⟩
    intro places k hplaces
    have two := extra.mem_iff (j := k) (start.ascending hplaces)
    simp only [start.mem_iff hplaces] at two
    simp only [spans_loop]
    refine two.trans ?_
    tauto

theorem spansAll_append {as bs : List Expr} :
    SpansAll text (as ++ bs) i j ↔ ∃ k, SpansAll text as i k ∧ SpansAll text bs k j := by
  induction as generalizing i with
  | nil => simp [SpansAll]
  | cons a as ih =>
    simp only [List.cons_append, SpansAll, ih]
    tauto

theorem spansAll_singleton {e : Expr} : SpansAll text [e] i j ↔ e.Spans text i j := by simp [SpansAll]

theorem spansAll_items (e : Expr) : SpansAll text e.items i j ↔ e.Spans text i j := by
  induction e generalizing i j with
  | empty => rfl
  | seq a b iha ihb => simp only [items, spansAll_append, iha, ihb, Spans]
  | text | chars | look | either | loop | group => exact spansAll_singleton

theorem spansAll_flatMap_items (es : List Expr) : SpansAll text (es.flatMap items) i j ↔ SpansAll text es i j := by
  induction es generalizing i with
  | nil => rfl
  | cons e es ih => simp only [List.flatMap_cons, spansAll_append, spansAll_items, SpansAll, ih]

theorem spans_text_append {as bs : List Char} :
    (Expr.text (as ++ bs)).Spans text i j ↔ ∃ k, (Expr.text as).Spans text i k ∧ (Expr.text bs).Spans text k j := by
  induction as generalizing i with
  | nil => simp [Spans]
  | cons a as ih =>
    have shift : ∀ (cs : List Char) (k : Nat), (Expr.text (a :: cs)).Spans text i k ↔
        text[i]? = some a ∧ (Expr.text cs).Spans text (i + 1) k := by
      intro cs k
      simp only [Spans, cons_isPrefix_drop, List.length_cons, and_assoc]
      rw [Nat.add_right_comm, Nat.add_assoc]
    rw [List.cons_append, shift, ih]
    simp only [shift]
    tauto

theorem spansAll_joinTexts (es : List Expr) : SpansAll text (joinTexts es) i j ↔ SpansAll text es i j := by
  fun_induction joinTexts es generalizing i with
  | case1 => rfl
  | case2 a rest b others joined ih =>
    -- The text joins with the one that the rest starts with.
    have hrest : ∀ k, SpansAll text rest k j ↔ SpansAll text (.text b :: others) k j := by
      intro k
      rw [← ih, joined]
    simp only [SpansAll, hrest, spans_text_append]
    tauto
  | case3 a rest others ih => simp only [SpansAll, ih]
  | case4 e rest others ih => simp only [SpansAll, ih]

theorem spans_seqOf (es : List Expr) : (seqOf es).Spans text i j ↔ SpansAll text es i j := by
  fun_induction seqOf es generalizing i with
  | case1 => rfl
  | case2 e => exact spansAll_singleton.symm
  | case3 e rest _ ih => simp only [Spans, SpansAll, ih]

theorem spans_sequence (es : List Expr) : (sequence es).Spans text i j ↔ SpansAll text es i j := by
  rw [sequence, spans_seqOf, spansAll_joinTexts, spansAll_flatMap_items]

end Expr

theorem isMatch_iff (r : Regex) (text : String) :
    r.isMatch text = true ↔
      ∃ i j, i ≤ text.toList.length ∧ r.expr.Spans text.toList.toArray i j := by
  have ascending : (List.range (text.toList.toArray.size + 1)).Pairwise (· < ·) := List.pairwise_lt_range
  have mem := fun j => (r.expr.follows_ends text.toList.toArray).mem_iff (j := j) ascending
  simp only [isMatch, Bool.not_eq_true', List.isEmpty_eq_false_iff_exists_mem]
  constructor
  · rintro ⟨j, hj⟩
    obtain ⟨i, hi, h⟩ := (mem j).mp hj
    refine ⟨i, j, ?_, h⟩
    simpa [Nat.lt_succ_iff] using hi
  · rintro ⟨i, j, hi, h⟩
    refine ⟨j, (mem j).mpr ⟨i, ?_, h⟩⟩
    simpa [Nat.lt_succ_iff] using hi

end GrammarCheck.Regex
