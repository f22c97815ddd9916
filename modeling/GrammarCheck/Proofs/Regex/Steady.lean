import GrammarCheck.Regex.Reader
import GrammarCheck.Proofs.Success

/-! Reading a pattern behind which a closing bracket and an end sign are put. A steady reader does there what it does
on the pattern alone, unless it reads past the end of the pattern; then no more than a part of what was put behind is
left. Reading on can only make that part smaller, so one who is past the bracket stays past it. -/

namespace GrammarCheck.Regex.Reader

open Success

/-- What is put behind a pattern. -/
def closing : List Char := [')', '$']

def State.closed (s : State) : State := { s with rest := s.rest ++ closing }

/-- No more is left than the end of a text. -/
def Beyond {α : Type} (tail : List Char) : α → State → Prop := fun _ t => t.rest <:+ tail

/-- The reader takes a number of characters at least, and does the same on a pattern and on the closed pattern, except
where its result and what it leaves say that it is past the end. -/
structure Steady {α : Type} (n : Nat) (past : α → State → Prop) (r : Reader α) : Prop where
  takes : ∀ {s t : State} {a : α}, r s = .ok (a, t) → t.rest <:+ s.rest.drop n
  tracks : ∀ {s t : State} {a : α}, r s.closed = .ok (a, t) → past a t ∨ ∃ u, r s = .ok (a, u) ∧ t = u.closed

variable {α β : Type} {tail : List Char} {m n : Nat} {s t : State}

@[simp] theorem closed_rest (s : State) : s.closed.rest = s.rest ++ closing := rfl

section Rules

variable {r : Reader α} {f g : α → Reader β} {past : α → State → Prop} {past' : β → State → Prop} {a : α} {b : β}

theorem bind_congr_at {r' : Reader α} (hr : r s = r' s) (h : ∀ a u, r s = .ok (a, u) → f a u = g a u) :
    (r >>= f) s = (r' >>= g) s := by
  show (r s >>= fun p => f p.1 p.2) = (r' s >>= fun p => g p.1 p.2)
  rw [← hr]
  cases ha : r s with
  | error e => rfl
  | ok p =>
    obtain ⟨a, u⟩ := p
    exact h a u ha

theorem run_get_bind (f : State → Reader α) : (get >>= f : Reader α) s = f s s := rfl

theorem drop_isSuffix {as bs : List Char} (h : as <:+ bs) : as.drop n <:+ bs.drop n := by
  rw [List.suffix_iff_eq_drop.mp h, List.drop_drop]
  exact List.drop_suffix_drop_left _ (Nat.le_add_left _ _)

theorem Steady.length_le (h : Steady n past r) (ha : r s = .ok (a, t)) : t.rest.length ≤ s.rest.length - n := by
  simpa using (h.takes ha).length_le

theorem Steady.mono (h : Steady n past r) (hn : m ≤ n) {past' : α → State → Prop}
    (hpast : ∀ a t, past a t → past' a t) : Steady m past' r where
  takes ha := (h.takes ha).trans (List.drop_suffix_drop_left _ hn)
  tracks ha := (h.tracks ha).imp_left (hpast _ _)

theorem steady_pure (a : α) : Steady 0 past (pure a) where
  takes := by
    rintro s t a ⟨⟩
    exact List.suffix_rfl
  tracks := by
    rintro s t a ⟨⟩
    exact .inr ⟨s, rfl, rfl⟩

theorem steady_fail (e : Error) : Steady n past (fail e) where
  takes := by rintro s t a ⟨⟩
  tracks := by rintro s t a ⟨⟩

/-- One step after another; who is past the end after the first has to be past it after the second. -/
theorem Steady.bind_of (hr : Steady n past r) (hf : ∀ a, Steady m past' (f a))
    (hpast : ∀ {a t b u}, past a t → f a t = .ok (b, u) → past' b u) : Steady (n + m) past' (r >>= f) where
  takes := by
    intro s u b h
    obtain ⟨a, t, ha, hb⟩ := run_bind_eq_ok.mp h
    have later := drop_isSuffix (n := m) (hr.takes ha)
    rw [List.drop_drop] at later
    exact ((hf a).takes hb).trans later
  tracks := by
    intro s u b h
    obtain ⟨a, t, ha, hb⟩ := run_bind_eq_ok.mp h
    rcases hr.tracks ha with hlost | ⟨t, alone, rfl⟩
    · exact .inl (hpast hlost hb)
    · refine ((hf a).tracks hb).imp_right ?_
      rintro ⟨u, rest, rfl⟩
      exact ⟨u, run_bind_eq_ok.mpr ⟨a, t, alone, rest⟩, rfl⟩

/-- What is left past the end only gets less. -/
theorem Steady.bind_beyond (hr : Steady n (Beyond tail) r) (hf : ∀ a, Steady m past' (f a))
    (hpast : ∀ b u, u.rest <:+ tail.drop m → past' b u) : Steady (n + m) past' (r >>= f) :=
  hr.bind_of hf fun ht hb => hpast _ _ (((hf _).takes hb).trans (drop_isSuffix ht))

theorem Steady.bind (hr : Steady n (Beyond tail) r) (hf : ∀ a, Steady 0 (Beyond tail) (f a)) :
    Steady n (Beyond tail) (r >>= f) :=
  hr.bind_beyond hf fun _ _ => id

/-- Who may be before the closing bracket is past it with one more character. -/
theorem Steady.bind_take (hr : Steady 0 (Beyond closing) r) (hf : ∀ a, Steady 1 (Beyond ['$']) (f a)) :
    Steady 1 (Beyond ['$']) (r >>= f) :=
  hr.bind_beyond hf fun _ _ => id

theorem Steady.map {past' : β → State → Prop} (hr : Steady n past r) {f : α → β}
    (hpast : ∀ a t, past a t → past' (f a) t) : Steady n past' (r >>= fun a => pure (f a)) := by
  refine hr.bind_of (m := 0) (fun a => steady_pure _) ?_
  rintro a t b u ha ⟨⟩
  exact hpast a t ha

theorem suffix_closing {cs : List Char} (h : cs <:+ ['$']) : cs <:+ closing := h.trans (List.suffix_cons ')' ['$'])

theorem Steady.loosen (h : Steady n (Beyond ['$']) r) : Steady n (Beyond closing) r :=
  h.mono (Nat.le_refl n) fun _ _ => suffix_closing

theorem Steady.of_take (h : Steady 1 past r) : Steady 0 past r := h.mono (Nat.zero_le 1) fun _ _ => id

/-- A failure that a condition calls for. -/
theorem Steady.guard {c : Prop} [Decidable c] {e : Error} {f : Unit → Reader β} (h : Steady n past' (f ())) :
    Steady n past' (if c then fail e >>= f else f ()) := by
  split_ifs
  · exact steady_fail e
  · exact h

/-- A reader that asks only for what a closing does not change. -/
theorem Steady.get_same {past : α → State → Prop} {f : State → Reader α} (hf : ∀ s, Steady n past (f s))
    (h : ∀ s : State, f s.closed = f s) : Steady n past (get >>= f) where
  takes := by
    intro s t a ha
    exact (hf s).takes ha
  tracks := by
    intro s t a ha
    have ha : f s.closed s.closed = .ok (a, t) := ha
    rw [h] at ha
    exact (hf s).tracks ha

/-- A reader that is bounded by what is left, where any larger bound would do as well. -/
theorem Steady.get_bound {past : α → State → Prop} {f : State → Reader α} {g : Nat → Reader α}
    (hg : ∀ m, Steady n past (g m)) (h : ∀ s m, s.rest.length ≤ m → f s s = g m s) : Steady n past (get >>= f) where
  takes := by
    intro s t a ha
    have ha : f s s = .ok (a, t) := ha
    rw [h s _ (Nat.le_refl _)] at ha
    exact (hg _).takes ha
  tracks := by
    intro s t a ha
    have ha : f s.closed s.closed = .ok (a, t) := ha
    rw [h s.closed _ (Nat.le_refl _)] at ha
    have alone : (get >>= f) s = g s.closed.rest.length s := h s _ (by simp)
    rw [alone]
    exact (hg _).tracks ha

end Rules

section Basic

variable {past : α → State → Prop}

theorem dropSpace_suffix (inComment : Bool) (cs : List Char) : dropSpace inComment cs <:+ cs := by
  fun_induction dropSpace inComment cs with
  | case1 => exact List.suffix_rfl
  | case2 c rest ih => exact ih.trans (List.suffix_cons c rest)
  | case3 c rest _ ih => exact ih.trans (List.suffix_cons c rest)
  | case4 rest _ ih => exact ih.trans (List.suffix_cons _ rest)
  | case5 => exact List.suffix_rfl

/-- A comment that the pattern leaves open takes in what is put behind. -/
theorem dropSpace_closing (inComment : Bool) (cs : List Char) :
    dropSpace inComment (cs ++ closing) = dropSpace inComment cs ++ closing ∨
      dropSpace inComment (cs ++ closing) = [] := by
  fun_induction dropSpace inComment cs with
  | case1 inComment =>
    cases inComment with
    | false => exact .inl (by decide)
    | true => exact .inr (by decide)
  | case2 c rest ih => exact ih
  | case3 c rest blank ih => simpa [dropSpace, blank] using ih
  | case4 rest blank ih => simpa [dropSpace, blank] using ih
  | case5 c rest blank other => simp [dropSpace, blank, other]

theorem steady_bump : Steady 1 (Beyond ['$']) bump where
  takes := by
    rintro s t a ⟨⟩
    have one : s.rest.drop 1 = s.rest.tail := List.drop_one
    show s.rest.tail <:+ s.rest.drop 1
    exact one ▸ List.suffix_rfl
  tracks := by
    rintro s t a ⟨⟩
    rcases s with ⟨rest, ignoreSpace, groups, names⟩
    cases rest with
    | nil => exact .inl List.suffix_rfl
    | cons c rest => exact .inr ⟨_, rfl, rfl⟩

theorem steady_skipSpace : Steady 0 (Beyond tail) skipSpace where
  takes := by
    rintro s t a ⟨⟩
    show (if s.ignoreSpace then { s with rest := dropSpace false s.rest } else s).rest <:+ s.rest
    split_ifs
    · exact dropSpace_suffix false s.rest
    · exact List.suffix_rfl
  tracks := by
    rintro s t a ⟨⟩
    rcases s with ⟨rest, ignoreSpace, groups, names⟩
    cases ignoreSpace with
    | false => exact .inr ⟨_, rfl, rfl⟩
    | true =>
      rcases dropSpace_closing false rest with h | h
      · refine .inr ⟨_, rfl, ?_⟩
        simp [State.closed, h]
      · refine .inl ?_
        show dropSpace false (rest ++ closing) <:+ tail
        rw [h]
        exact List.nil_suffix

theorem steady_bumpSkip : Steady 1 (Beyond ['$']) bumpSkip := steady_bump.bind fun _ => steady_skipSpace

/-- A look at the next character does not tell the end of a pattern from its closing bracket. -/
theorem Steady.peek {f : Option Char → Reader α} (hf : ∀ c, Steady n past (f c))
    (hend : ∀ {s t a}, s.rest = [] → f (some ')') s.closed = .ok (a, t) →
      past a t ∨ ∃ u, f none s = .ok (a, u) ∧ t = u.closed) : Steady n past (Reader.peek >>= f) where
  takes := by
    intro s t a h
    exact (hf _).takes h
  tracks := by
    intro s t a h
    rcases s with ⟨rest, ignoreSpace, groups, names⟩
    cases rest with
    | nil => exact hend rfl h
    | cons c rest => exact (hf _).tracks h

theorem Steady.beyond_closing {r : Reader α} {a : α} (h : Steady n past r) (hs : s.rest = [])
    (ha : r s.closed = .ok (a, t)) : t.rest <:+ closing.drop n := by
  have := h.takes ha
  rwa [closed_rest, hs] at this

theorem Steady.peek_bind {f : Option Char → Reader α} (hf : ∀ c, Steady n (Beyond (closing.drop n)) (f c)) :
    Steady n (Beyond (closing.drop n)) (Reader.peek >>= f) :=
  .peek hf fun hs ha => .inl ((hf _).beyond_closing hs ha)

theorem steady_char (e : Error) : Steady 0 (Beyond closing) (char e) := by
  refine .peek_bind ?_
  rintro (_ | c)
  · exact steady_fail e
  · exact steady_pure c

/-- Readers that only look further ahead. Where a pattern ends they see the closing bracket in place of nothing. -/
def LooksAhead (look : Reader (Option Char)) : Prop :=
  ∀ s, ∃ x y, look s = .ok (x, s) ∧ look s.closed = .ok (y, s.closed) ∧
    (s.rest = [] ∨ x = y ∨ x = none ∧ y = some ')')

theorem Steady.lookAhead {look : Reader (Option Char)} {f : Option Char → Reader α} (hlook : LooksAhead look)
    (hf : ∀ c, Steady n (Beyond (closing.drop n)) (f c)) (hend : f (some ')') = f none) :
    Steady n (Beyond (closing.drop n)) (look >>= f) where
  takes := by
    intro s t a h
    obtain ⟨c, u, hc, ha⟩ := run_bind_eq_ok.mp h
    obtain ⟨x, y, hx, -, -⟩ := hlook s
    rw [hx] at hc
    cases hc
    exact (hf _).takes ha
  tracks := by
    intro s t a h
    obtain ⟨c, u, hc, ha⟩ := run_bind_eq_ok.mp h
    obtain ⟨x, y, hx, hy, same⟩ := hlook s
    rw [hy] at hc
    cases hc
    rcases same with hs | rfl | ⟨rfl, rfl⟩
    · exact .inl ((hf _).beyond_closing hs ha)
    · refine ((hf _).tracks ha).imp_right ?_
      rintro ⟨u, hu, rfl⟩
      exact ⟨u, run_bind_eq_ok.mpr ⟨_, _, hx, hu⟩, rfl⟩
    · rw [hend] at ha
      refine ((hf _).tracks ha).imp_right ?_
      rintro ⟨u, hu, rfl⟩
      exact ⟨u, run_bind_eq_ok.mpr ⟨_, _, hx, hu⟩, rfl⟩

theorem looksAhead_peekSecond : LooksAhead peekSecond := by
  intro s
  refine ⟨_, _, rfl, rfl, ?_⟩
  rcases s with ⟨_ | ⟨c, _ | ⟨d, rest⟩⟩, ignoreSpace, groups, names⟩
  · exact .inl rfl
  · exact .inr (.inr ⟨rfl, rfl⟩)
  · exact .inr (.inl rfl)

/-- A part that ends before a bracket is the same in the closed pattern. -/
theorem span_closing_of_stops {p : Char → Bool} (hbracket : p ')' = false) (cs : List Char) :
    (cs ++ closing).dropWhile p = cs.dropWhile p ++ closing ∧ (cs ++ closing).takeWhile p = cs.takeWhile p := by
  induction cs with
  | nil => simp [closing, hbracket]
  | cons c cs ih =>
    by_cases hc : p c
    · simpa [hc] using ih
    · simp [hc]

/-- A part that may go on behind a bracket ends at the same place in the closed pattern, or has no end in both. -/
theorem span_closing {p : Char → Bool} (hbracket : p ')' = true) (hend : p '$' = true) (cs : List Char) :
    (∃ c rest, cs.dropWhile p = c :: rest ∧ (cs ++ closing).dropWhile p = c :: (rest ++ closing) ∧
      (cs ++ closing).takeWhile p = cs.takeWhile p) ∨ (cs ++ closing).dropWhile p = [] ∧ cs.dropWhile p = [] := by
  induction cs with
  | nil => simp [closing, hbracket, hend]
  | cons c cs ih =>
    by_cases hc : p c
    · simpa [hc] using ih
    · simp [hc]

theorem dropWhile_isWhitespace_closing (cs : List Char) :
    (cs ++ closing).dropWhile Unicode.isWhitespace = cs.dropWhile Unicode.isWhitespace ++ closing :=
  (span_closing_of_stops (by decide) cs).1

theorem head?_closing (cs : List Char) :
    cs.head? = (cs ++ closing).head? ∨ cs.head? = none ∧ (cs ++ closing).head? = some ')' := by
  cases cs with
  | nil => exact .inr ⟨rfl, rfl⟩
  | cons c cs => exact .inl rfl

theorem dropStart?_closing (phrase : List Char) (h : ')' ∉ phrase) (cs : List Char) :
    Text.dropStart? phrase (cs ++ closing) = (Text.dropStart? phrase cs).map (· ++ closing) := by
  fun_induction Text.dropStart? phrase cs with
  | case1 cs => rfl
  | case2 p ps =>
    have hp : p ≠ ')' := (List.ne_of_not_mem_cons h).symm
    simp [closing, Text.dropStart?, hp]
  | case3 p ps cs ih => simpa [Text.dropStart?] using ih (List.not_mem_of_not_mem_cons h)
  | case4 p ps c cs hpc => simp [Text.dropStart?, hpc]

theorem looksAhead_peekBeyond : LooksAhead peekBeyond := by
  intro s
  rcases s with ⟨_ | ⟨c, after⟩, ignoreSpace, groups, names⟩
  · cases ignoreSpace
    · exact ⟨_, _, rfl, rfl, .inl rfl⟩
    · exact ⟨_, _, rfl, rfl, .inl rfl⟩
  cases ignoreSpace with
  | false => exact ⟨_, _, rfl, rfl, .inr (head?_closing after)⟩
  | true =>
    simp only [peekBeyond, State.closed, List.cons_append, List.tail_cons, dropWhile_isWhitespace_closing]
    rcases after.dropWhile Unicode.isWhitespace with _ | ⟨d, comment⟩
    · exact ⟨_, _, rfl, rfl, .inr (.inr ⟨rfl, rfl⟩)⟩
    · by_cases hd : d = '#'
      · subst hd
        have same := head?_closing (comment.dropWhile Unicode.isWhitespace)
        rw [← dropWhile_isWhitespace_closing] at same
        exact ⟨_, _, rfl, rfl, .inr same⟩
      · refine ⟨some d, some d, ?_, ?_, .inr (.inl rfl)⟩
        · simp [hd]
        · simp [hd]

end Basic

end GrammarCheck.Regex.Reader
