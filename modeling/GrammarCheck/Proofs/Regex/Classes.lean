import GrammarCheck.Proofs.Regex.Parts

/-! Classes in brackets are read steadily. The one item that reads differently at the end of a pattern, a boundary that is
left before a brace, is no member of a class. -/

namespace GrammarCheck.Regex.Reader

open Success

variable {α : Type} {tail : List Char} {m n : Nat} {s t u : State}
  {items : List ClassAst} {pending : Option (SetOperation × ClassAst)}

theorem namedAsciiClass?_closing (cs : List Char) :
    namedAsciiClass? (cs ++ closing) = (namedAsciiClass? cs).map fun p => (p.1, p.2 ++ closing) := by
  rw [namedAsciiClass?, namedAsciiClass?, dropStart?_closing _ (by decide)]
  rcases Text.dropStart? ['[', ':'] cs with _ | rest
  · rfl
  have negated : ((rest ++ closing).head? == some '^') = (rest.head? == some '^') := by
    cases rest <;> rfl
  have body : (if rest.head? == some '^' then (rest ++ closing).tail else rest ++ closing) =
      (if rest.head? == some '^' then rest.tail else rest) ++ closing := by
    cases rest with
    | nil => rfl
    | cons c rest => split_ifs <;> rfl
  simp only [Option.map_some, Option.bind_eq_bind, Option.bind_some, negated, body]
  rcases span_closing (p := (· != ':')) rfl rfl (if rest.head? == some '^' then rest.tail else rest) with
    ⟨c, after, drop, drop', take⟩ | ⟨drop', drop⟩
  · rw [drop, drop', take, ← List.cons_append, dropStart?_closing _ (by decide)]
    simp [Option.map_eq_bind, Option.bind_assoc]
  · rw [drop, drop']
    rfl

theorem suffix_of_dropStart? {p cs rest : List Char} (h : Text.dropStart? p cs = some rest) : rest <:+ cs :=
  ⟨p, (Text.eq_append_of_dropStart? h).symm⟩

theorem suffix_of_namedAsciiClass? {cs after : List Char} {item : ClassAst}
    (h : namedAsciiClass? cs = some (item, after)) : after <:+ cs.drop 1 := by
  simp only [namedAsciiClass?, Option.bind_eq_bind, Option.bind_eq_some_iff, Option.pure_def] at h
  obtain ⟨rest, hrest, after', hafter, kind, -, ⟨⟩⟩ := h
  have body : (if rest.head? == some '^' then rest.tail else rest) <:+ rest := by
    split_ifs
    · exact List.tail_suffix rest
    · exact List.suffix_rfl
  have opening : rest <:+ cs.drop 1 := by
    rw [Text.eq_append_of_dropStart? hrest]
    exact List.suffix_cons ':' rest
  exact (suffix_of_dropStart? hafter).trans ((List.dropWhile_suffix _).trans (body.trans opening))

theorem suffix_of_asciiClass {item : ClassAst} (h : asciiClass s = .ok (some item, t)) :
    t.rest <:+ s.rest.drop 1 := by
  rw [asciiClass] at h
  split at h
  next found =>
    cases h
    exact suffix_of_namedAsciiClass? found
  next => cases h

theorem steady_asciiClass : Steady 0 (Beyond tail) asciiClass where
  takes := by
    intro s t found h
    cases found with
    | some item => exact (suffix_of_asciiClass h).trans (List.drop_suffix 1 s.rest)
    | none =>
      rw [asciiClass] at h
      split at h
      · cases h
      · cases h
        exact List.suffix_rfl
  tracks := by
    intro s t found h
    rw [asciiClass, closed_rest, namedAsciiClass?_closing] at h
    rw [asciiClass]
    cases hs : namedAsciiClass? s.rest with
    | none =>
      rw [hs] at h
      cases h
      exact .inr ⟨s, rfl, rfl⟩
    | some p =>
      rw [hs] at h
      cases h
      exact .inr ⟨_, rfl, rfl⟩

theorem steady_memberOf (p : Primitive) {past : ClassAst → State → Prop} : Steady 0 past (memberOf p) := by
  cases p with
  | literal | escape => exact steady_pure _
  | dot | assertion => exact steady_fail _

theorem steady_boundOf (p : Primitive) {past : Literal → State → Prop} : Steady 0 past (boundOf p) := by
  cases p with
  | literal => exact steady_pure _
  | dot | assertion | escape => exact steady_fail _

/-- An item of a class may be a boundary that is left before a brace; a class cannot hold it. -/
theorem Steady.classItem_bind {f : Primitive → Reader α} (hf : ∀ p, Steady 0 (Beyond closing) (f p))
    (hfail : ∀ {a s b t}, f (.assertion a) s ≠ .ok (b, t)) : Steady 1 (Beyond closing) (classItem >>= f) := by
  refine steady_classItem.bind_of hf ?_
  rintro p t b u (past | ⟨rfl, -⟩) h
  · exact ((hf p).takes h).trans (suffix_closing past)
  · exact absurd h hfail

theorem steady_classRange : Steady 1 (Beyond closing) classRange := by
  refine .classItem_bind (fun first => ?_) ?_
  · refine steady_skipSpace.bind fun _ => (steady_char _).bind fun c =>
      .lookAhead looksAhead_peekBeyond (fun beyond => ?_) rfl
    split_ifs
    · exact steady_memberOf first
    · refine steady_bumpSkip.loosen.of_take.bind fun _ => (steady_char _).bind fun _ => .of_take ?_
      refine .classItem_bind (fun second => ?_) ?_
      · exact (steady_boundOf first).bind fun low => (steady_boundOf second).bind fun high => .guard (steady_pure _)
      · intro a s b t h
        obtain ⟨low, u, -, h⟩ := run_bind_eq_ok.mp h
        cases h
  · intro a s b t h
    obtain ⟨-, u, -, h⟩ := run_bind_eq_ok.mp h
    obtain ⟨c, v, -, h⟩ := run_bind_eq_ok.mp h
    obtain ⟨beyond, w, -, h⟩ := run_bind_eq_ok.mp h
    split_ifs at h
    · cases h
    · obtain ⟨-, u', -, h⟩ := run_bind_eq_ok.mp h
      obtain ⟨-, v', -, h⟩ := run_bind_eq_ok.mp h
      obtain ⟨second, w', -, h⟩ := run_bind_eq_ok.mp h
      cases h

theorem leadingHyphens_succ (hs : s.rest.length < n) : leadingHyphens (n + 1) items s = leadingHyphens n items s := by
  induction n generalizing s items with
  | zero => omega
  | succ n ih =>
    rw [leadingHyphens, leadingHyphens]
    refine bind_congr_at rfl fun c t hc => ?_
    obtain ⟨hhead, rfl⟩ := char_eq_ok.mp hc
    split_ifs
    · refine bind_congr_at rfl fun _ u hu => ih ?_
      have := length_lt_of_bumpSkip hu hhead
      omega
    · rfl

theorem steady_leadingHyphens : Steady 0 (Beyond closing) (leadingHyphens n items) := by
  induction n generalizing items with
  | zero => exact steady_pure _
  | succ n ih =>
    refine (steady_char _).bind fun c => ?_
    split_ifs
    · exact steady_bumpSkip.loosen.of_take.bind fun _ => ih
    · exact steady_pure _

theorem leadingHyphens_enough (hm : s.rest.length < m) (hn : s.rest.length < n) :
    leadingHyphens m items s = leadingHyphens n items s :=
  eq_of_enough (g := fun n => leadingHyphens n items) (fun _ => leadingHyphens_succ) hm hn

theorem steady_classStart : Steady 1 (Beyond closing) classStart := by
  refine steady_bumpSkip.loosen.bind fun _ => (steady_char _).bind fun c => ?_
  have members : Steady 0 (Beyond closing) (do
      let s ← get
      let items ← leadingHyphens (s.rest.length + 1) []
      let next ← char .classUnclosed
      if items.isEmpty && next = ']' then
        bumpSkip
        let _ ← char .classUnclosed
        pure (c == '^', [.literal ⟨']', false⟩])
      else pure (c == '^', items)) := by
    refine .get_bound (g := fun m => do
      let items ← leadingHyphens (m + 1) []
      let next ← char .classUnclosed
      if items.isEmpty && next = ']' then
        bumpSkip
        let _ ← char .classUnclosed
        pure (c == '^', [.literal ⟨']', false⟩])
      else pure (c == '^', items)) ?_ ?_
    · intro m
      refine steady_leadingHyphens.bind fun items => (steady_char _).bind fun next => ?_
      split_ifs
      · exact steady_bumpSkip.loosen.of_take.bind fun _ => (steady_char _).bind fun _ => steady_pure _
      · exact steady_pure _
    · intro s m hm
      exact bind_congr_at (leadingHyphens_enough (by omega) (by omega)) fun _ _ _ => rfl
  split_ifs
  · exact steady_bumpSkip.loosen.of_take.bind fun _ => members
  · exact members

theorem operationOf_bracket (c : Char) : classBody.operationOf c (some ')') = classBody.operationOf c none := by
  by_cases hc : c = ')'
  · subst hc
    rfl
  · have : (some ')' != some c) = true := by simp [Ne.symm hc]
    simp [classBody.operationOf, this]

theorem steady_classBody : Steady 1 (Beyond ['$']) (classBody n pending items) := by
  induction n generalizing pending items with
  | zero => exact steady_fail _
  | succ n ih =>
    refine steady_skipSpace.bind_take fun _ => (steady_char _).bind_take fun c =>
      .lookAhead looksAhead_peekSecond (fun second => ?_) ?_
    · split
      · exact steady_bump.bind fun _ => steady_bump.of_take.bind fun _ => ih.of_take
      · split_ifs
        · refine steady_asciiClass.bind_take fun found => ?_
          cases found with
          | some item => exact ih
          | none => exact steady_classStart.of_take.bind_take fun start => ih.bind fun body => ih.of_take
        · exact steady_bump.bind fun _ => steady_pure _
        · exact steady_classRange.of_take.bind_take fun item => ih
    · rw [operationOf_bracket]

theorem classBody_succ (hs : s.rest.length < n) :
    classBody (n + 1) pending items s = classBody n pending items s := by
  induction n generalizing s pending items with
  | zero => omega
  | succ n ih =>
    rw [classBody, classBody]
    refine bind_congr_at rfl fun _ t ht => bind_congr_at rfl fun c u hc => ?_
    have hlen := (steady_skipSpace : Steady 0 (Beyond []) skipSpace).length_le ht
    obtain ⟨hhead, rfl⟩ := char_eq_ok.mp hc
    have hpos : 0 < u.rest.length := List.length_pos_of_mem (List.mem_of_head? hhead)
    refine bind_congr_at rfl fun second v hv => ?_
    cases hv
    rcases classBody.operationOf c u.rest.tail.head? with _ | op
    case some =>
      refine bind_congr_at rfl fun _ v hv => bind_congr_at rfl fun _ w hw => ih ?_
      have := steady_bump.length_le hv
      have := steady_bump.of_take.length_le hw
      omega
    case none =>
      dsimp only
      split_ifs
      · refine bind_congr_at rfl fun found v hv => ?_
        cases found with
        | some item =>
          refine ih ?_
          have := (suffix_of_asciiClass hv).length_le
          rw [List.length_drop] at this
          omega
        | none =>
          refine bind_congr_at rfl fun start w hw => ?_
          have := (steady_asciiClass : Steady 0 (Beyond []) asciiClass).length_le hv
          have := steady_classStart.length_le hw
          obtain ⟨negated, members⟩ := start
          refine bind_congr_at (ih (by omega)) fun body x hx => ih ?_
          have := steady_classBody.length_le hx
          omega
      · rfl
      · refine bind_congr_at rfl fun item v hv => ih ?_
        have := steady_classRange.length_le hv
        omega

theorem classBody_enough (hm : s.rest.length < m) (hn : s.rest.length < n) :
    classBody m pending items s = classBody n pending items s :=
  eq_of_enough (g := fun n => classBody n pending items) (fun _ => classBody_succ) hm hn

theorem steady_bracketed : Steady 1 (Beyond ['$']) bracketed := by
  refine steady_classStart.of_take.bind_take fun start => .get_bound (g := fun m => do
    let body ← classBody (2 * m + 2) none start.2
    pure (.bracket start.1 body)) ?_ ?_
  · exact fun m => steady_classBody.bind fun body => steady_pure _
  · intro s m hm
    exact bind_congr_at (classBody_enough (by omega) (by omega)) fun _ _ _ => rfl

end GrammarCheck.Regex.Reader
