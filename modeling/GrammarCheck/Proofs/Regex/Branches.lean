import GrammarCheck.Proofs.Regex.Classes

/-! Groups, repetitions and branches are read steadily, whatever stands in them. -/

namespace GrammarCheck.Regex.Reader

open Success

variable {α : Type} {tail : List Char} {m n : Nat} {s t u : State} {inner : Reader Ast} {items branches : List Ast}

section Groups

theorem steady_accept (phrase : String) (h : ')' ∉ phrase.toList) : Steady 0 (Beyond tail) (accept phrase) where
  takes := by
    intro s t a ha
    rw [accept] at ha
    split at ha
    next rest hrest =>
      cases ha
      exact suffix_of_dropStart? hrest
    next =>
      cases ha
      exact List.suffix_rfl
  tracks := by
    intro s t a ha
    rw [accept, closed_rest, dropStart?_closing _ h] at ha
    rw [accept]
    cases hs : Text.dropStart? phrase.toList s.rest with
    | none =>
      rw [hs] at ha
      cases ha
      exact .inr ⟨s, rfl, rfl⟩
    | some rest =>
      rw [hs] at ha
      cases ha
      exact .inr ⟨_, rfl, rfl⟩

theorem steady_newGroup : Steady 0 (Beyond tail) newGroup where
  takes := by
    rintro s t a ⟨⟩
    exact List.suffix_rfl
  tracks := by
    rintro s t a ⟨⟩
    exact .inr ⟨_, rfl, rfl⟩

theorem groupName_eq_ok {name : List Char} : groupName s = .ok (name, t) ↔
    ∃ c after, s.rest.dropWhile (· != '>') = c :: after ∧ isName (s.rest.takeWhile (· != '>')) ∧
      name = s.rest.takeWhile (· != '>') ∧ t = { s with rest := after } := by
  rw [groupName, run_get_bind]
  rcases s.rest.dropWhile (· != '>') with _ | ⟨c, after⟩
  · refine ⟨?_, ?_⟩
    · rintro ⟨⟩
    · rintro ⟨c, after, ⟨⟩, -⟩
  · dsimp only
    split_ifs with hname
    · refine ⟨?_, ?_⟩
      · rintro ⟨⟩
        exact ⟨c, after, rfl, hname, rfl, rfl⟩
      · rintro ⟨c, after, ⟨⟩, -, rfl, rfl⟩
        rfl
    · refine ⟨?_, ?_⟩
      · rintro ⟨⟩
      · rintro ⟨c, after, -, hname', -⟩
        exact absurd hname' hname

theorem steady_groupName : Steady 0 (Beyond tail) groupName where
  takes := by
    intro s t name h
    obtain ⟨c, after, drop, -, -, rfl⟩ := groupName_eq_ok.mp h
    exact (List.suffix_cons c after).trans (drop ▸ List.dropWhile_suffix _)
  tracks := by
    intro s t name h
    obtain ⟨c, after, drop, letters, rfl, rfl⟩ := groupName_eq_ok.mp h
    rw [closed_rest] at drop letters ⊢
    rcases span_closing (p := (· != '>')) rfl rfl s.rest with ⟨d, rest, alone, drop', take⟩ | ⟨drop', -⟩
    · rw [take] at letters ⊢
      obtain ⟨rfl, rfl⟩ : d = c ∧ rest ++ closing = after := by simpa [drop'] using drop
      exact .inr ⟨{ s with rest := rest }, groupName_eq_ok.mpr ⟨d, rest, alone, letters, rfl, rfl⟩, rfl⟩
    · simp [drop'] at drop

theorem steady_addName (name : List Char) (index : Nat) : Steady 0 (Beyond tail) (addName name index) where
  takes := by
    intro s t a h
    have h : (if s.names.any (·.1 == name) then fail .groupName
      else set { s with names := s.names ++ [(name, index)] } : Reader Unit) s = .ok (a, t) := h
    split_ifs at h
    · cases h
    · cases h
      exact List.suffix_rfl
  tracks := by
    intro s t a h
    have h : (if s.names.any (·.1 == name) then fail .groupName
      else set { s.closed with names := s.names ++ [(name, index)] } : Reader Unit) s.closed = .ok (a, t) := h
    have alone : addName name index s = (if s.names.any (·.1 == name) then fail .groupName
      else set { s with names := s.names ++ [(name, index)] } : Reader Unit) s := rfl
    rw [alone]
    split_ifs at h ⊢
    · cases h
    · cases h
      exact .inr ⟨_, rfl, rfl⟩

theorem steady_named (index : Nat) : Steady 0 (Beyond tail) (groupStart.named index) :=
  steady_groupName.bind fun name => (steady_addName name index).bind fun _ => steady_pure _

theorem steady_flagged (letters : List Char) (last : Char) : Steady 0 (Beyond tail) (flagged letters last) := by
  rw [flagged]
  split
  · exact steady_fail _
  · split_ifs
    · exact steady_fail _
    · exact steady_pure _
    · exact steady_pure _

theorem groupFlags_eq_ok {start : GroupStart} : groupFlags s = .ok (start, t) ↔
    ∃ last after, s.rest.dropWhile (!isFlagsEnd ·) = last :: after ∧
      flagged (s.rest.takeWhile (!isFlagsEnd ·)) last { s with rest := after } = .ok (start, t) := by
  rw [groupFlags, run_get_bind]
  rcases s.rest.dropWhile (!isFlagsEnd ·) with _ | ⟨last, after⟩
  · refine ⟨?_, ?_⟩
    · rintro ⟨⟩
    · rintro ⟨last, after, ⟨⟩, -⟩
  · refine ⟨fun h => ⟨last, after, rfl, h⟩, ?_⟩
    rintro ⟨last, after, ⟨⟩, h⟩
    exact h

theorem steady_groupFlags : Steady 0 (Beyond ['$']) groupFlags where
  takes := by
    intro s t start h
    obtain ⟨last, after, drop, h⟩ := groupFlags_eq_ok.mp h
    have later := (steady_flagged _ _ : Steady 0 (Beyond []) _).takes h
    exact later.trans ((List.suffix_cons last after).trans (drop ▸ List.dropWhile_suffix _))
  tracks := by
    intro s t start h
    obtain ⟨last, after, drop, h⟩ := groupFlags_eq_ok.mp h
    obtain ⟨drop', take⟩ := span_closing_of_stops (p := (!isFlagsEnd ·)) rfl s.rest
    rw [closed_rest] at drop h
    rw [drop'] at drop
    rw [take] at h
    rcases alone : s.rest.dropWhile (!isFlagsEnd ·) with _ | ⟨c, rest⟩
    · -- The closing bracket ends the flags.
      obtain ⟨rfl, rfl⟩ : ')' = last ∧ ['$'] = after := by simpa [alone, closing] using drop
      exact .inl ((steady_flagged _ _ : Steady 0 (Beyond []) _).takes h)
    · obtain ⟨rfl, rfl⟩ : c = last ∧ rest ++ closing = after := by simpa [alone] using drop
      refine ((steady_flagged _ _).tracks (s := { s with rest := rest }) h).imp_right ?_
      rintro ⟨u, hu, rfl⟩
      exact ⟨u, groupFlags_eq_ok.mpr ⟨c, rest, alone, hu⟩, rfl⟩

theorem steady_groupStart : Steady 0 (Beyond ['$']) groupStart := by
  refine steady_skipSpace.bind fun _ => (steady_accept _ (by decide)).bind fun _ =>
    (steady_accept _ (by decide)).bind fun _ => (steady_accept _ (by decide)).bind fun _ =>
    (steady_accept _ (by decide)).bind fun _ => .guard ?_
  refine (steady_accept _ (by decide)).bind fun named => ?_
  split_ifs
  · exact steady_newGroup.bind fun index => steady_named index
  refine (steady_accept _ (by decide)).bind fun named => ?_
  split_ifs
  · exact steady_newGroup.bind fun index => steady_named index
  refine (steady_accept _ (by decide)).bind fun flagged => ?_
  split_ifs
  · exact steady_groupFlags
  · exact steady_newGroup.bind fun index => steady_pure _

theorem steady_setIgnoreSpace (on : Bool) :
    Steady 0 (Beyond tail) (modify fun s => { s with ignoreSpace := on } : Reader Unit) where
  takes := by
    rintro s t a ⟨⟩
    exact List.suffix_rfl
  tracks := by
    rintro s t a ⟨⟩
    exact .inr ⟨_, rfl, rfl⟩

theorem steady_closeGroup (outer : Bool) : Steady 1 (Beyond ['$']) (closeGroup outer) :=
  .peek_bind fun _ => .guard (steady_bump.bind fun _ => steady_setIgnoreSpace outer)

theorem steady_group (h : Steady 0 (Beyond ['$']) inner) : Steady 0 (Beyond ['$']) (group inner) := by
  refine .get_same (fun outer => steady_groupStart.bind fun start => ?_) fun outer => rfl
  cases start with
  | setFlags changes => exact (steady_setIgnoreSpace _).bind fun _ => steady_pure _
  | capture index => exact h.bind fun body => (steady_closeGroup _).of_take.bind fun _ => steady_pure _
  | flagged changes =>
    exact (steady_setIgnoreSpace _).bind fun _ => h.bind fun body =>
      (steady_closeGroup _).of_take.bind fun _ => steady_pure _

end Groups

section Repetitions

theorem steady_checkRepeatable (items : List Ast) : Steady 0 (Beyond tail) (checkRepeatable items) := by
  cases items with
  | nil => exact steady_fail _
  | cons item rest =>
    rw [checkRepeatable]
    split_ifs
    · exact steady_pure _
    · exact steady_fail _

theorem steady_repeated (low : Nat) (high : Option Nat) (greedy : Bool) :
    Steady 0 (Beyond tail) (repeated items low high greedy) := by
  cases items with
  | nil => exact steady_fail _
  | cons item rest =>
    rw [repeated]
    split_ifs
    · exact steady_pure _
    · exact steady_fail _

theorem steady_repetition (sign : Char) (items : List Ast) : Steady 1 (Beyond ['$']) (repetition sign items) := by
  refine (steady_checkRepeatable items).bind_take fun _ => ?_
  split
  · refine steady_counts.bind_take fun bounds => steady_bumpSkip.bind fun _ => steady_greed.bind fun greedy => ?_
    exact .guard (steady_repeated _ _ _)
  all_goals exact steady_bump.bind fun _ => steady_greed.bind fun greedy => steady_repeated _ _ _

theorem cases_of_suffix_closing {cs : List Char} (h : cs <:+ closing) : cs = closing ∨ cs = ['$'] ∨ cs = [] := by
  simpa [closing, List.suffix_cons_iff] using h

theorem count_of_suffix_closing (h : s.rest <:+ closing) (hne : s.rest ≠ []) : count s = .ok (none, s) := by
  rcases s with ⟨rest, ignoreSpace, groups, names⟩
  rcases cases_of_suffix_closing h with rfl | rfl | rfl
  · rfl
  · rfl
  · exact absurd rfl hne

/-- No count stands behind a brace at the end of a pattern. -/
theorem counts_of_braced {bounds : Nat × Option Nat} (hs : Braced s) : counts s ≠ .ok (bounds, t) := by
  intro h
  obtain ⟨x, u, hu, behind⟩ := run_bind_eq_ok.mp h
  obtain ⟨c, v, hc, behindChar⟩ := run_bind_eq_ok.mp behind
  obtain ⟨hhead, rfl⟩ := char_eq_ok.mp hc
  have left := hs.2 x v hu
  have hne : v.rest ≠ [] := by
    intro hnil
    simp [hnil] at hhead
  obtain ⟨low, w, hlow, behindCount⟩ := run_bind_eq_ok.mp behindChar
  rw [count_of_suffix_closing left hne] at hlow
  cases hlow
  obtain ⟨d, w, hd, final⟩ := run_bind_eq_ok.mp behindCount
  cases hd
  rcases cases_of_suffix_closing left with hv | hv | hv
  · rw [hv] at final
    cases final
  · rw [hv] at final
    cases final
  · exact hne hv

theorem repetition_of_braced (hs : Braced s) : repetition '{' items s ≠ .ok (branches, t) := by
  intro h
  obtain ⟨x, u, hu, h⟩ := run_bind_eq_ok.mp h
  have same : u = s := by
    cases items with
    | nil => cases hu
    | cons item rest =>
      rw [checkRepeatable] at hu
      split_ifs at hu
      · cases hu
        rfl
      · cases hu
  obtain ⟨bounds, v, hv, -⟩ := run_bind_eq_ok.mp h
  exact counts_of_braced (same ▸ hs) hv

end Repetitions

theorem skipSpace_of_brace (hs : s.rest.head? = some '{') : skipSpace s = .ok ((), s) := by
  rcases s with ⟨_ | ⟨c, rest⟩, ignoreSpace, groups, names⟩
  · cases hs
  · obtain rfl : c = '{' := Option.some.inj hs
    cases ignoreSpace <;> rfl

theorem alternation_of_braced {ast : Ast} (hs : Braced s) : alternation n branches items s ≠ .ok (ast, t) := by
  intro h
  cases n with
  | zero => cases h
  | succ n =>
    obtain ⟨x, u, hu, h⟩ := run_bind_eq_ok.mp h
    rw [skipSpace_of_brace hs.1] at hu
    cases hu
    obtain ⟨c, u, hc, h⟩ := run_bind_eq_ok.mp h
    cases hc
    rw [hs.1] at h
    obtain ⟨items', u, hr, -⟩ := run_bind_eq_ok.mp h
    exact repetition_of_braced hs hr

theorem steady_alternation : Steady 0 (Beyond ['$']) (alternation n branches items) := by
  induction n generalizing branches items with
  | zero => exact steady_fail _
  | succ n ih =>
    refine steady_skipSpace.bind fun _ => .peek (fun c => ?_) ?_
    · cases c with
      | none => exact steady_pure _
      | some c =>
        dsimp only
        split_ifs
        · exact steady_pure _
        · exact steady_bump.of_take.bind fun _ => ih
        · exact steady_bump.of_take.bind fun _ => (steady_group ih).bind fun item => ih
        · exact steady_bracketed.of_take.bind fun item => ih
        · exact (steady_repetition c items).of_take.bind fun items => ih
        · refine (steady_primitive.bind_of (m := 0) (fun p => ih) ?_).of_take
          rintro p t b u (past | ⟨-, braced⟩) h
          · exact (ih.takes h).trans past
          · exact absurd h (alternation_of_braced braced)
    · rintro s t a hs ⟨⟩
      exact .inr ⟨s, rfl, rfl⟩

theorem group_congr {inner' : Reader Ast} (h : ∀ u, u.rest.length ≤ s.rest.length → inner u = inner' u) :
    group inner s = group inner' s := by
  refine bind_congr_at rfl fun outer t ht => ?_
  cases ht
  refine bind_congr_at rfl fun start t ht => ?_
  have hlen := steady_groupStart.length_le ht
  cases start with
  | setFlags changes => rfl
  | capture index => exact bind_congr_at (h t (by omega)) fun _ _ _ => rfl
  | flagged changes =>
    refine bind_congr_at rfl fun _ u hu => ?_
    cases hu
    exact bind_congr_at (h _ (by simpa using hlen)) fun _ _ _ => rfl

theorem alternation_succ (hs : s.rest.length < n) :
    alternation (n + 1) branches items s = alternation n branches items s := by
  induction n generalizing s branches items with
  | zero => omega
  | succ n ih =>
    rw [alternation, alternation]
    refine bind_congr_at rfl fun _ t ht => bind_congr_at rfl fun c u hc => ?_
    have hlen := (steady_skipSpace : Steady 0 (Beyond []) skipSpace).length_le ht
    obtain ⟨rfl, rfl⟩ := eq_of_peek hc
    rcases hhead : u.rest.head? with _ | c
    · rfl
    have hpos : 0 < u.rest.length := List.length_pos_of_mem (List.mem_of_head? hhead)
    dsimp only
    split_ifs
    · rfl
    · refine bind_congr_at rfl fun _ v hv => ih ?_
      have := steady_bump.length_le hv
      omega
    · refine bind_congr_at rfl fun _ v hv => ?_
      have hv := steady_bump.length_le hv
      refine bind_congr_at (group_congr fun w hw => ih (by omega)) fun item w hw => ih ?_
      have := (steady_group steady_alternation).length_le hw
      omega
    · refine bind_congr_at rfl fun item v hv => ih ?_
      have := steady_bracketed.length_le hv
      omega
    · refine bind_congr_at rfl fun items v hv => ih ?_
      have := (steady_repetition _ _).length_le hv
      omega
    · refine bind_congr_at rfl fun p v hv => ih ?_
      have := steady_primitive.length_le hv
      omega

theorem alternation_enough (hm : s.rest.length < m) (hn : s.rest.length < n) :
    alternation m branches items s = alternation n branches items s :=
  eq_of_enough (g := fun n => alternation n branches items) (fun _ => alternation_succ) hm hn

end GrammarCheck.Regex.Reader
