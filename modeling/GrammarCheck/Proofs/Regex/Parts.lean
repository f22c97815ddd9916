import GrammarCheck.Proofs.Regex.Steady

/-! The parts that a pattern is made of are read steadily: counts, escapes and boundaries. The bounds on how often a
reader goes round are never met, as each round takes a character, so they may grow with the pattern. -/

namespace GrammarCheck.Regex.Reader

open Success

variable {α : Type} {tail : List Char} {isPart : Char → Bool} {close : Reader Unit} {found : List Char} {m n : Nat} {s t u : State}

section Bounds

/-- Bounds that are enough are as good as each other. -/
theorem eq_of_enough {g : Nat → Reader α} {k : Nat} (h : ∀ n, k ≤ n → g (n + 1) s = g n s) (hm : k ≤ m)
    (hn : k ≤ n) : g m s = g n s := by
  have least : ∀ n, k ≤ n → g n s = g k s := by
    intro n hn
    induction hn with
    | refl => rfl
    | step hkn ih => rw [h _ hkn, ih]
  rw [least m hm, least n hn]

theorem eq_of_peek {c : Option Char} (h : peek s = .ok (c, t)) : c = s.rest.head? ∧ t = s := by
  cases h
  exact ⟨rfl, rfl⟩

theorem length_of_bumpSkip {x : Unit} (h : bumpSkip s = .ok (x, t)) (hs : s.rest.length ≤ n + 1) :
    t.rest.length ≤ n := by
  have := steady_bumpSkip.length_le h
  omega

theorem length_lt_of_bumpSkip {x : Unit} {c : Char} (h : bumpSkip s = .ok (x, t)) (hs : s.rest.head? = some c) :
    t.rest.length < s.rest.length := by
  have := steady_bumpSkip.length_le h
  have : s.rest ≠ [] := by
    rintro hnil
    simp [hnil] at hs
  have := List.length_pos_iff.mpr this
  omega

theorem collect_succ (hs : s.rest.length ≤ n) : collect isPart (n + 1) found s = collect isPart n found s := by
  induction n generalizing s found with
  | zero =>
    rcases s with ⟨_ | ⟨c, rest⟩, ignoreSpace, groups, names⟩
    · rfl
    · simp at hs
  | succ n ih =>
    rw [collect, collect]
    refine bind_congr_at rfl fun c t hc => ?_
    obtain ⟨-, rfl⟩ := eq_of_peek hc
    cases c with
    | none => rfl
    | some c =>
      dsimp only
      split_ifs
      · exact bind_congr_at rfl fun _ u hu => ih (length_of_bumpSkip hu hs)
      · rfl

theorem collect_enough (hm : s.rest.length ≤ m) (hn : s.rest.length ≤ n) :
    collect isPart m found s = collect isPart n found s :=
  eq_of_enough (g := fun n => collect isPart n found) (fun _ => collect_succ) hm hn

theorem braced_succ (hs : s.rest.length ≤ n) :
    braced isPart close (n + 1) found s = braced isPart close n found s := by
  induction n generalizing s found with
  | zero =>
    have hs : s.rest = [] := List.length_eq_zero_iff.mp (Nat.le_zero.mp hs)
    rcases s with ⟨rest, ignoreSpace, groups, names⟩
    obtain rfl : rest = [] := hs
    cases ignoreSpace <;> rfl
  | succ n ih =>
    rw [braced, braced]
    refine bind_congr_at rfl fun _ t ht => bind_congr_at rfl fun c u hc => ?_
    have hu := (steady_char _).length_le hc
    have ht := length_of_bumpSkip ht hs
    split_ifs
    · rfl
    · exact ih (by omega)
    · rfl

theorem braced_enough (hm : s.rest.length ≤ m) (hn : s.rest.length ≤ n) :
    braced isPart close m found s = braced isPart close n found s :=
  eq_of_enough (g := fun n => braced isPart close n found) (fun _ => braced_succ) hm hn

end Bounds

theorem steady_collect (found : List Char) : Steady 0 (Beyond closing) (collect isPart n found) := by
  induction n generalizing found with
  | zero => exact steady_pure _
  | succ n ih =>
    refine .peek_bind ?_
    rintro (_ | c)
    · exact steady_pure _
    · dsimp only
      split_ifs
      · exact steady_bumpSkip.loosen.of_take.bind fun _ => ih (c :: found)
      · exact steady_pure _

theorem steady_braced (hclose : Steady 1 (Beyond ['$']) close) (found : List Char) :
    Steady 1 (Beyond ['$']) (braced isPart close n found) := by
  induction n generalizing found with
  | zero => exact steady_fail _
  | succ n ih =>
    refine steady_bumpSkip.bind fun _ => ((steady_char _).bind_take fun c => ?_).of_take
    split_ifs
    · exact hclose.bind fun _ => steady_pure _
    · exact ih (c :: found)
    · exact steady_fail _

theorem steady_skipBlanks : Steady 0 (Beyond tail) skipBlanks where
  takes := by
    rintro s t a ⟨⟩
    exact List.dropWhile_suffix _
  tracks := by
    rintro s t a ⟨⟩
    refine .inr ⟨_, rfl, ?_⟩
    simp only [State.closed, dropWhile_isWhitespace_closing]

theorem steady_count : Steady 0 (Beyond closing) count := by
  refine steady_skipBlanks.bind fun _ => .get_bound (g := fun m => do
    let digits ← collect Char.isDigit m []
    let _ ← collect Unicode.isWhitespace m []
    if digits.isEmpty then pure none
    else if decimalValue digits < UInt32.size then pure (some (decimalValue digits)) else fail .repetitionCount) ?_ ?_
  · intro m
    refine (steady_collect _).bind fun digits => (steady_collect _).bind fun _ => ?_
    split_ifs
    · exact steady_pure _
    · exact steady_pure _
    · exact steady_fail _
  · intro s m hm
    refine bind_congr_at (collect_enough (Nat.le_refl _) hm) fun digits t ht => ?_
    have hlen := (steady_collect _).length_le ht
    exact bind_congr_at (collect_enough hlen (Nat.le_trans hlen hm)) fun _ _ _ => rfl

theorem steady_required (k : Option Nat) : Steady 0 (Beyond closing) (required k) := by
  cases k with
  | none => exact steady_fail _
  | some k => exact steady_pure k

theorem steady_counts : Steady 0 (Beyond closing) counts := by
  have final : ∀ bounds : Nat × Option Nat, Steady 0 (Beyond closing) (do
      if (← peek) != some '\x7d' then fail .repetitionCount
      pure bounds) := fun bounds => .peek_bind fun c => .guard (steady_pure bounds)
  refine steady_bumpSkip.loosen.of_take.bind fun _ => (steady_char _).bind fun _ => steady_count.bind fun low =>
    .peek_bind fun c => ?_
  split
  · refine steady_bumpSkip.loosen.of_take.bind fun _ => (steady_char _).bind fun next => ?_
    split_ifs
    · exact (steady_required low).bind fun low => final (low, none)
    · exact (steady_required low).bind fun low => steady_count.bind fun high =>
        (steady_required high).bind fun high => final (low, some high)
  · exact (steady_required low).bind fun low => final (low, some low)
  · exact steady_fail _

theorem steady_greed : Steady 0 (Beyond ['$']) greed := by
  refine .peek ?_ ?_
  · intro c
    split
    · exact (steady_bump.bind fun _ => steady_pure _).of_take
    · exact steady_pure _
  · rintro s t a - ⟨⟩
    exact .inr ⟨s, rfl, rfl⟩

theorem steady_charOfHex (digits : List Char) {past : Char → State → Prop} : Steady 0 past (charOfHex digits) := by
  rw [charOfHex]
  split_ifs
  · exact steady_pure _
  · exact steady_fail _

theorem steady_hexDigits (found : List Char) : Steady 1 (Beyond ['$']) (hexDigits (n + 1) found) := by
  have round : ∀ {n found}, (∀ found, Steady 0 (Beyond ['$']) (hexDigits n found)) →
      Steady 1 (Beyond ['$']) (hexDigits (n + 1) found) := by
    intro n found h
    refine (steady_char _).bind_take fun c => ?_
    split_ifs
    · exact steady_bumpSkip.bind fun _ => h (c :: found)
    · exact steady_fail _
  induction n generalizing found with
  | zero => exact round fun found => steady_pure _
  | succ n ih => exact round fun found => (ih found).of_take

theorem steady_hexLiteral (width : Nat) : Steady 1 (Beyond ['$']) (hexLiteral (width + 1)) := by
  refine steady_bumpSkip.bind fun _ => ((steady_char _).bind_take fun c => ?_).of_take
  split_ifs
  · refine .get_bound (g := fun m => do
      let found ← braced isHexDigit bumpSkip m []
      if found.isEmpty then fail .escape
      let value ← charOfHex found
      pure ⟨value, false⟩) ?_ ?_
    · exact fun m => (steady_braced steady_bumpSkip []).bind fun found =>
        .guard ((steady_charOfHex found).bind fun value => steady_pure _)
    · intro s m hm
      exact bind_congr_at (braced_enough (Nat.le_refl _) hm) fun _ _ _ => rfl
  · exact (steady_hexDigits []).bind fun found => (steady_charOfHex found).bind fun value => steady_pure _

theorem steady_unicodeClass (negated : Bool) : Steady 1 (Beyond ['$']) (unicodeClass negated) := by
  refine steady_bumpSkip.bind fun _ => ((steady_char _).bind_take fun c => ?_).of_take
  split_ifs
  · refine .get_bound (g := fun m => do
      let name ← braced (fun _ => true) bump m []
      pure (.unicode (splitClassName name).1 (negated != (splitClassName name).2))) ?_ ?_
    · exact fun m => (steady_braced steady_bump []).bind fun name => steady_pure _
    · intro s m hm
      exact bind_congr_at (braced_enough (Nat.le_refl _) hm) fun _ _ _ => rfl
  · exact steady_fail _
  · exact steady_bumpSkip.bind fun _ => steady_pure _

/-- At a brace behind which the pattern ends. -/
def Braced (t : State) : Prop := t.rest.head? = some '{' ∧ ∀ x u, bumpSkip t = .ok (x, u) → u.rest <:+ closing

/-- A boundary is left before a brace where the name in it is cut short. -/
def PastBoundary (a : Assertion) (t : State) : Prop := t.rest <:+ ['$'] ∨ a = .wordBoundary ∧ Braced t

def PastPrimitive (p : Primitive) (t : State) : Prop := t.rest <:+ ['$'] ∨ p = .assertion .wordBoundary ∧ Braced t

theorem steady_boundaryName (m : Nat) : Steady 1 (Beyond ['$']) (boundaryName m) := by
  refine (steady_collect _).bind_take fun name => .peek_bind fun c => .guard (steady_bump.bind fun _ => ?_)
  split
  all_goals first
    | exact steady_pure _
    | exact steady_fail _

theorem boundaryName_enough (hm : s.rest.length ≤ m) (hn : s.rest.length ≤ n) :
    boundaryName m s = boundaryName n s :=
  bind_congr_at (collect_enough hm hn) fun _ _ _ => rfl

theorem char_eq_ok {e : Error} {c : Char} : char e s = .ok (c, t) ↔ s.rest.head? = some c ∧ t = s := by
  rcases s with ⟨_ | ⟨d, rest⟩, ignoreSpace, groups, names⟩
  · refine ⟨?_, ?_⟩
    · rintro ⟨⟩
    · rintro ⟨⟨⟩, -⟩
  · refine ⟨?_, ?_⟩
    · rintro ⟨⟩
      exact ⟨rfl, rfl⟩
    · rintro ⟨⟨⟩, rfl⟩
      rfl

theorem bracedBoundary_eq_ok {a : Assertion} : bracedBoundary s = .ok (a, t) ↔
    ∃ x u c, bumpSkip s = .ok (x, u) ∧ u.rest.head? = some c ∧
      if isBoundaryNameChar c then boundaryName s.rest.length u = .ok (a, t) else a = .wordBoundary ∧ t = s := by
  have run : bracedBoundary s = (do
      bumpSkip
      let c ← char .unexpectedEnd
      if isBoundaryNameChar c then boundaryName s.rest.length
      else
        set s
        pure .wordBoundary : Reader Assertion) s := rfl
  simp only [run, run_bind_eq_ok, char_eq_ok]
  constructor
  · rintro ⟨x, u, hu, c, v, ⟨hc, rfl⟩, h⟩
    refine ⟨x, v, c, hu, hc, ?_⟩
    split_ifs at h ⊢
    · exact h
    · cases h
      exact ⟨rfl, rfl⟩
  · rintro ⟨x, u, c, hu, hc, h⟩
    refine ⟨x, u, hu, c, u, ⟨hc, rfl⟩, ?_⟩
    split_ifs at h ⊢
    · exact h
    · obtain ⟨rfl, rfl⟩ := h
      rfl

theorem boundaryKind_of_brace (hs : s.rest.head? = some '{') : boundaryKind s = bracedBoundary s := by
  show (if s.rest.head? != some '{' then pure .wordBoundary else bracedBoundary : Reader Assertion) s = _
  rw [hs]
  rfl

theorem boundaryKind_of_other (hs : s.rest.head? ≠ some '{') : boundaryKind s = .ok (.wordBoundary, s) := by
  show (if s.rest.head? != some '{' then pure .wordBoundary else bracedBoundary : Reader Assertion) s = _
  rw [if_pos (by simpa using hs)]
  rfl

theorem braced_of_bumpSkip {x : Unit} (hs : s.rest.head? = some '{') (h : bumpSkip s = .ok (x, u))
    (hend : u.rest <:+ closing) : Braced s := by
  refine ⟨hs, ?_⟩
  intro y v hv
  rw [h] at hv
  cases hv
  exact hend

theorem suffix_of_bracedBoundary {a : Assertion} (h : bracedBoundary s = .ok (a, t)) : t.rest <:+ s.rest := by
  obtain ⟨x, u, c, hu, -, hrest⟩ := bracedBoundary_eq_ok.mp h
  split_ifs at hrest
  · exact ((steady_boundaryName _).of_take.takes hrest).trans (steady_bumpSkip.of_take.takes hu)
  · exact hrest.2 ▸ List.suffix_rfl

theorem bracedBoundary_tracks {a : Assertion} (hs : s.rest.head? = some '{')
    (h : bracedBoundary s.closed = .ok (a, t)) :
    PastBoundary a t ∨ ∃ u, bracedBoundary s = .ok (a, u) ∧ t = u.closed := by
  have brace : s.closed.rest.head? = some '{' := by simp [List.head?_append, hs]
  obtain ⟨x, u, c, hu, hc, hrest⟩ := bracedBoundary_eq_ok.mp h
  rcases steady_bumpSkip.tracks hu with past | ⟨v, hv, rfl⟩
  · -- The pattern ends behind the brace.
    refine .inl ?_
    split_ifs at hrest
    · exact .inl (((steady_boundaryName _).of_take.takes hrest).trans past)
    · obtain ⟨rfl, rfl⟩ := hrest
      exact .inr ⟨rfl, braced_of_bumpSkip brace hu (suffix_closing past)⟩
  have hlen : v.rest.length ≤ s.rest.length := steady_bumpSkip.of_take.length_le hv
  rcases head?_closing v.rest with same | ⟨hend, bracket⟩
  · have alone := fun b w => (bracedBoundary_eq_ok (s := s) (a := b) (t := w)).mpr
    split_ifs at hrest with hpart
    · refine ((steady_boundaryName _).tracks hrest).imp .inl ?_
      rintro ⟨w, hw, rfl⟩
      rw [boundaryName_enough (Nat.le_trans hlen (by simp)) hlen] at hw
      exact ⟨w, alone _ _ ⟨x, v, c, hv, same.trans hc, by rwa [if_pos hpart]⟩, rfl⟩
    · obtain ⟨rfl, rfl⟩ := hrest
      exact .inr ⟨s, alone _ _ ⟨x, v, c, hv, same.trans hc, by rw [if_neg hpart]; exact ⟨rfl, rfl⟩⟩, rfl⟩
  · -- The name in the braces is cut short by the closing bracket, which is no part of a name.
    obtain rfl : ')' = c := by simpa [bracket] using hc
    obtain ⟨rfl, rfl⟩ : a = .wordBoundary ∧ t = s.closed := hrest
    refine .inl (.inr ⟨rfl, braced_of_bumpSkip brace hu ?_⟩)
    rw [closed_rest, List.head?_eq_none_iff.mp hend]
    exact List.suffix_rfl

theorem steady_boundaryKind : Steady 0 PastBoundary boundaryKind where
  takes := by
    intro s t a h
    by_cases hs : s.rest.head? = some '{'
    · rw [boundaryKind_of_brace hs] at h
      exact suffix_of_bracedBoundary h
    · rw [boundaryKind_of_other hs] at h
      cases h
      exact List.suffix_rfl
  tracks := by
    intro s t a h
    by_cases hs : s.rest.head? = some '{'
    · have brace : s.closed.rest.head? = some '{' := by simp [List.head?_append, hs]
      rw [boundaryKind_of_brace brace] at h
      rw [boundaryKind_of_brace hs]
      exact bracedBoundary_tracks hs h
    · have other : s.closed.rest.head? ≠ some '{' := by
        rcases head?_closing s.rest with same | ⟨-, bracket⟩
        · exact same ▸ hs
        · simp [bracket]
      rw [boundaryKind_of_other other] at h
      cases h
      exact .inr ⟨s, boundaryKind_of_other hs, rfl⟩

theorem Steady.primitive {r : Reader Primitive} (h : Steady n (Beyond ['$']) r) : Steady n PastPrimitive r :=
  h.mono (Nat.le_refl n) fun _ _ => .inl

theorem steady_escape : Steady 1 PastPrimitive escape := by
  refine steady_bump.bind_beyond (m := 0) (fun _ => ?_) fun _ _ => .inl
  refine ((steady_char _).bind_beyond (m := 1) (fun c => ?_) fun _ _ => .inl).of_take
  split
  · exact ((steady_hexLiteral 1).bind fun _ => steady_pure _).primitive
  · exact ((steady_hexLiteral 3).bind fun _ => steady_pure _).primitive
  · exact ((steady_hexLiteral 7).bind fun _ => steady_pure _).primitive
  · exact ((steady_unicodeClass false).bind fun _ => steady_pure _).primitive
  · exact ((steady_unicodeClass true).bind fun _ => steady_pure _).primitive
  · refine steady_bump.bind_beyond (m := 0) (fun _ => ?_) fun _ _ => .inl
    split_ifs
    · exact steady_pure _
    · split
      case h_15 =>
        refine steady_boundaryKind.map fun a t ha => ha.imp_right ?_
        rintro ⟨rfl, braced⟩
        exact ⟨rfl, braced⟩
      all_goals first
        | exact steady_pure _
        | exact steady_fail _

theorem steady_primitive : Steady 1 PastPrimitive primitive := by
  refine (steady_char _).bind_beyond (m := 1) (fun c => ?_) fun _ _ => .inl
  split
  · exact steady_escape
  all_goals exact (steady_bump.bind fun _ => steady_pure _).primitive

theorem steady_classItem : Steady 1 PastPrimitive classItem := by
  refine (steady_char _).bind_beyond (m := 1) (fun c => ?_) fun _ _ => .inl
  split_ifs
  · exact steady_escape
  · exact (steady_bump.bind fun _ => steady_pure _).primitive

end GrammarCheck.Regex.Reader
