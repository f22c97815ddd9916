import GrammarCheck.Matcher
import GrammarCheck.Proofs.Regex.Branches
import GrammarCheck.Proofs.Regex.Spans

/-! A compiled pattern matches the whole of a text or nothing. The pattern is put into a group between the signs for
the start and the end of a text; unless it closes that group itself it is read in there as it is read alone, so the
anchored pattern compiles only if the pattern is well formed. -/

namespace GrammarCheck.Regex

open Success

namespace Reader

variable {n groups : Nat} {branches items : List Ast} {rest : List Char} {names : List (List Char × Nat)} {t : State}
  {ast : Ast}

theorem alternation_lineStart : alternation (n + 1) branches items ⟨'^' :: rest, false, groups, names⟩ =
    alternation n branches (.assertion .lineStart :: items) ⟨rest, false, groups, names⟩ := rfl

theorem alternation_ignoreCase :
    alternation (n + 1) branches items ⟨'(' :: '?' :: 'i' :: ')' :: rest, false, groups, names⟩ =
      alternation n branches (.flags [⟨.ignoreCase, true⟩] :: items) ⟨rest, false, groups, names⟩ := rfl

theorem exists_body_of_alternation
    (h : alternation (n + 1) branches items ⟨'(' :: '?' :: ':' :: rest, false, groups, names⟩ = .ok (ast, t)) :
    ∃ body u v, alternation n [] [] ⟨rest, false, groups, names⟩ = .ok (body, u) ∧ closeGroup false u = .ok ((), v) ∧
      alternation n branches (.group [] body :: items) v = .ok (ast, t) := by
  have h : (group (alternation n [] []) >>= fun item => alternation n branches (item :: items))
      ⟨'?' :: ':' :: rest, false, groups, names⟩ = .ok (ast, t) := h
  obtain ⟨item, v, hgroup, after⟩ := run_bind_eq_ok.mp h
  have hgroup : (do
      let body ← alternation n [] []
      closeGroup false
      pure (.group [] body) : Reader Ast) ⟨rest, false, groups, names⟩ = .ok (item, v) := hgroup
  obtain ⟨body, u, hbody, hclose⟩ := run_bind_eq_ok.mp hgroup
  obtain ⟨x, w, hw, hitem⟩ := run_bind_eq_ok.mp hclose
  cases hitem
  exact ⟨body, u, v, hbody, hw, after⟩

theorem closeGroup_eq_ok {outer : Bool} {s : State} {x : Unit} (h : closeGroup outer s = .ok (x, t)) :
    ∃ rest, s.rest = ')' :: rest ∧ t = { s with rest := rest, ignoreSpace := outer } := by
  rcases s with ⟨_ | ⟨c, rest⟩, ignoreSpace, groups, names⟩
  · cases h
  · by_cases hc : c = ')'
    · subst hc
      cases h
      exact ⟨rest, rfl, rfl⟩
    · obtain ⟨d, u, hd, h⟩ := run_bind_eq_ok.mp h
      cases hd
      rw [if_pos (by simpa using hc)] at h
      cases h

theorem pattern_of_alternation {s : State} (h : alternation (s.rest.length + 1) [] [] s = .ok (ast, t)) :
    pattern s = if t.rest = [] then .ok (ast, t) else .error .groupUnopened := by
  show (alternation (s.rest.length + 1) [] [] s >>= fun p => (do
    if (← peek).isSome then fail .groupUnopened
    pure p.1 : Reader Ast) p.2) = _
  rw [h]
  rcases t with ⟨_ | ⟨c, rest⟩, ignoreSpace, groups, names⟩
  · rfl
  · rfl

theorem alternation_of_pattern {s : State} (h : pattern s = .ok (ast, t)) :
    alternation (s.rest.length + 1) [] [] s = .ok (ast, t) := by
  have h : (do
      let ast ← alternation (s.rest.length + 1) [] []
      if (← peek).isSome then fail .groupUnopened
      pure ast : Reader Ast) s = .ok (ast, t) := h
  obtain ⟨ast', u, hread, hend⟩ := run_bind_eq_ok.mp h
  rcases u with ⟨_ | ⟨c, rest⟩, ignoreSpace, groups, names⟩
  · cases hend
    exact hread
  · cases hend

/-- A pattern that does not close the group around it is read there as it is read alone. -/
theorem exists_body_of_group {source : List Char} (hlen : source.length < n)
    (h : alternation (n + 1) branches items ⟨'(' :: '?' :: ':' :: (source ++ closing), false, 0, []⟩ = .ok (ast, t))
    (hopen : pattern ⟨source, false, 0, []⟩ ≠ .error .groupUnopened) :
    ∃ body u, pattern ⟨source, false, 0, []⟩ = .ok (body, u) ∧
      alternation n branches (.group [] body :: items) ⟨['$'], false, u.groups, u.names⟩ = .ok (ast, t) := by
  obtain ⟨body, u, v, hbody, hclose, hrest⟩ := exists_body_of_alternation h
  obtain ⟨rest, hu, hv⟩ := closeGroup_eq_ok hclose
  have hbody : alternation n [] [] (State.closed ⟨source, false, 0, []⟩) = .ok (body, u) := hbody
  rcases steady_alternation.tracks hbody with past | ⟨w, alone, hw⟩
  · -- Past its end the pattern has taken the bracket that should close the group.
    have short : u.rest <:+ ['$'] := past
    rw [hu] at short
    simp [List.suffix_cons_iff] at short
  · rw [alternation_enough (m := n) (n := source.length + 1) hlen (Nat.lt_succ_self _)] at alone
    have hpattern := pattern_of_alternation (s := ⟨source, false, 0, []⟩) alone
    split_ifs at hpattern with hend
    · refine ⟨body, w, hpattern, ?_⟩
      have hstate : v = ⟨['$'], false, w.groups, w.names⟩ := by
        rw [hw, closed_rest, hend] at hu
        obtain rfl : ['$'] = rest := List.tail_eq_of_cons_eq hu
        rw [hv, hw]
        rfl
      rwa [hstate] at hrest
    · exact absurd hpattern hopen

end Reader

/-- What stands before an anchored pattern so that case does not matter. -/
def caseItems : Bool → List Ast
  | true => []
  | false => [.flags [⟨.ignoreCase, true⟩]]

theorem toList_anchor (source : String) (caseSensitive : Bool) : (Matcher.anchor source caseSensitive).toList =
    (if caseSensitive then [] else ['(', '?', 'i', ')']) ++
      '^' :: '(' :: '?' :: ':' :: (source.toList ++ Reader.closing) := by
  cases caseSensitive <;> simp [Matcher.anchor, Reader.closing]

theorem exists_body_of_pattern {source : List Char} {caseSensitive : Bool} {ast : Ast} {t : Reader.State}
    (h : Reader.pattern ⟨(if caseSensitive then [] else ['(', '?', 'i', ')']) ++
      '^' :: '(' :: '?' :: ':' :: (source ++ Reader.closing), false, 0, []⟩ = .ok (ast, t))
    (hopen : Reader.pattern ⟨source, false, 0, []⟩ ≠ .error .groupUnopened) :
    ∃ body u, Reader.pattern ⟨source, false, 0, []⟩ = .ok (body, u) ∧ t.names = u.names ∧
      ast = .concat (caseItems caseSensitive ++ [.assertion .lineStart, .group [] body, .assertion .lineEnd]) := by
  have hread := Reader.alternation_of_pattern h
  have hlen : source.length < (source ++ Reader.closing).length + 3 := by
    simp only [List.length_append]
    omega
  cases caseSensitive with
  | true =>
    have hread : Reader.alternation ((source ++ Reader.closing).length + 3 + 1 + 1) [] []
        ⟨'^' :: '(' :: '?' :: ':' :: (source ++ Reader.closing), false, 0, []⟩ = .ok (ast, t) := hread
    rw [Reader.alternation_lineStart] at hread
    obtain ⟨body, v, alone, hrest⟩ := Reader.exists_body_of_group hlen hread hopen
    cases hrest
    exact ⟨body, v, alone, rfl, rfl⟩
  | false =>
    have hread : Reader.alternation ((source ++ Reader.closing).length + 6 + 1 + 1 + 1) [] []
        ⟨'(' :: '?' :: 'i' :: ')' :: '^' :: '(' :: '?' :: ':' :: (source ++ Reader.closing), false, 0, []⟩ =
          .ok (ast, t) := hread
    rw [Reader.alternation_ignoreCase, Reader.alternation_lineStart] at hread
    obtain ⟨body, v, alone, hrest⟩ := Reader.exists_body_of_group (Nat.lt_add_right 3 hlen) hread hopen
    cases hrest
    exact ⟨body, v, alone, rfl, rfl⟩

theorem read_eq (source : List Char) : Ast.read source =
    match Reader.pattern ⟨source, false, 0, []⟩ with
    | .error e => .error e
    | .ok (ast, t) => if ast.depth ≤ nestLimit then .ok (ast, t.names) else .error .nestedTooDeeply := rfl

theorem read_anchor {source : String} {caseSensitive : Bool} {ast : Ast} {names : List (List Char × Nat)}
    (h : Ast.read (Matcher.anchor source caseSensitive).toList = .ok (ast, names))
    (hopen : Ast.read source.toList ≠ .error .groupUnopened) :
    ∃ body, Ast.read source.toList = .ok (body, names) ∧
      ast = .concat (caseItems caseSensitive ++ [.assertion .lineStart, .group [] body, .assertion .lineEnd]) := by
  rw [read_eq, toList_anchor] at h
  have hopen' : Reader.pattern ⟨source.toList, false, 0, []⟩ ≠ .error .groupUnopened := by
    intro herror
    rw [read_eq, herror] at hopen
    exact hopen rfl
  split at h
  next => cases h
  next ast' t hpattern =>
    split_ifs at h with hdepth
    cases h
    obtain ⟨body, u, alone, hnames, rfl⟩ := exists_body_of_pattern hpattern hopen'
    refine ⟨body, ?_, rfl⟩
    have shallow : body.depth ≤ nestLimit := by
      refine Nat.le_trans ?_ hdepth
      cases caseSensitive <;> simp only [caseItems, Ast.depth, Ast.depthList, List.cons_append, List.nil_append] <;> omega
    rw [read_eq, alone, hnames]
    exact if_pos shallow

theorem read_expr_eq_ok {flags : Flags} {source : List Char} {e : Expr} {names : List (List Char × Nat)} :
    Expr.read flags source = .ok (e, names) ↔
      ∃ ast after, Ast.read source = .ok (ast, names) ∧ ast.meaning flags = .ok (e, after) := by
  simp only [Expr.read, bind_eq_ok, pure_eq_ok, Prod.exists, Prod.mk.injEq]
  constructor
  · rintro ⟨ast, names, hread, e, after, hmeaning, rfl, rfl⟩
    exact ⟨ast, after, hread, hmeaning⟩
  · rintro ⟨ast, after, hread, hmeaning⟩
    exact ⟨ast, names, hread, e, after, hmeaning, rfl, rfl⟩

/-- What the items of an anchored pattern stand for. -/
def anchoredItems (caseSensitive : Bool) (e : Expr) : List Expr :=
  match caseSensitive with
  | true => [.look .textStart, e, .look .textEnd]
  | false => [.empty, .look .textStart, e, .look .textEnd]

theorem ok_bind {α β : Type} (a : α) (f : α → Except Error β) : (Except.ok a >>= f) = f a := rfl

theorem meanings_anchored (flags : Flags) (body : Ast) :
    Ast.meanings flags [.assertion .lineStart, .group [] body, .assertion .lineEnd] = (do
      let (e, _) ← body.meaning flags
      pure ([.look (flags.look .lineStart), e, .look (flags.look .lineEnd)], flags)) := by
  have unchanged : flags.changeAll [] = flags := rfl
  simp only [Ast.meanings, Ast.meaning, ok_bind, unchanged]
  cases body.meaning flags <;> rfl

theorem meaning_anchor (caseSensitive : Bool) (body : Ast) :
    (Ast.concat (caseItems caseSensitive ++
      [.assertion .lineStart, .group [] body, .assertion .lineEnd])).meaning {} = (do
      let (e, _) ← body.meaning { ignoreCase := !caseSensitive }
      pure (.sequence (anchoredItems caseSensitive e), { ignoreCase := !caseSensitive })) := by
  cases caseSensitive with
  | true =>
    rw [caseItems, List.nil_append, Ast.meaning, meanings_anchored, Bool.not_true]
    cases body.meaning {} <;> rfl
  | false =>
    have set : Flags.changeAll {} [⟨.ignoreCase, true⟩] = { ignoreCase := true } := rfl
    rw [caseItems, List.cons_append, List.nil_append, Ast.meaning, Ast.meanings, Ast.meaning, ok_bind, set]
    dsimp only
    rw [meanings_anchored, Bool.not_false]
    cases body.meaning { ignoreCase := true } <;> rfl

theorem spans_anchored {caseSensitive : Bool} {e : Expr} {text : Array Char} {i j : Nat} (hi : i ≤ text.size) :
    (Expr.sequence (anchoredItems caseSensitive e)).Spans text i j ↔ i = 0 ∧ j = text.size ∧ e.Spans text i j := by
  have starts : ∀ k, (Expr.look .textStart).Spans text i k ↔ i = 0 ∧ i = k := by
    intro k
    have before : (Look.textStart.holdsAt text i = true) ↔ i = 0 := by
      simp [Look.holdsAt, Look.between]
      omega
    exact and_congr_left' before
  have stops : ∀ k l, (Expr.look .textEnd).Spans text k l ↔ text.size ≤ k ∧ k = l := by
    intro k l
    simp [Expr.Spans, Look.holdsAt, Look.between]
  have items : Expr.SpansAll text (anchoredItems caseSensitive e) i j ↔
      Expr.SpansAll text [.look .textStart, e, .look .textEnd] i j := by
    cases caseSensitive with
    | true => rfl
    | false => simp [anchoredItems, Expr.SpansAll, Expr.Spans]
  rw [Expr.spans_sequence, items]
  constructor
  · rintro ⟨k, hstart, l, hspans, last, hstop, hlast⟩
    obtain ⟨hzero, rfl⟩ := (starts k).mp hstart
    obtain ⟨hsize, hl⟩ := (stops l last).mp hstop
    obtain rfl : l = j := hl.trans hlast
    have hle := hspans.le
    exact ⟨hzero, by omega, hspans⟩
  · rintro ⟨hzero, hsize, hspans⟩
    exact ⟨i, (starts _).mpr ⟨hzero, rfl⟩, j, hspans, j, (stops _ _).mpr ⟨Nat.le_of_eq hsize.symm, rfl⟩, rfl⟩

end GrammarCheck.Regex

namespace GrammarCheck.Matcher

theorem ofRegex_eq_ok {source : String} {caseSensitive : Bool} {m : Matcher} (h : ofRegex source caseSensitive = .ok m) :
    ∃ r names, m = .regex source r ∧
      Regex.Expr.read {} (anchor source caseSensitive).toList = .ok (r.expr, names) := by
  cases hr : Regex.ofString (anchor source caseSensitive) with
  | error e =>
    rw [ofRegex, hr] at h
    cases h
  | ok r =>
    rw [ofRegex, hr] at h
    obtain ⟨⟨e, names⟩, hread, hfits⟩ := Success.bind_eq_ok.mp hr
    dsimp only at hfits
    split_ifs at hfits
    · cases hfits
      cases h
      exact ⟨_, names, rfl, hread⟩

/-- A pattern that does not close a bracket it has not opened compiles only if it is well formed by itself, and then
accepts just the texts that it matches from their start to their end. -/
theorem accepts_iff_spans_whole {source : String} {caseSensitive : Bool} {m : Matcher}
    (h : ofRegex source caseSensitive = .ok m)
    (hopen : Regex.Expr.read { ignoreCase := !caseSensitive } source.toList ≠ .error .groupUnopened) :
    ∃ e names, Regex.Expr.read { ignoreCase := !caseSensitive } source.toList = .ok (e, names) ∧
      ∀ text caseSensitive', m.accepts text caseSensitive' = true ↔ e.Spans text.toList.toArray 0 text.toList.length := by
  obtain ⟨r, names, rfl, hr⟩ := ofRegex_eq_ok h
  obtain ⟨ast, after, hread, hmeaning⟩ := Regex.read_expr_eq_ok.mp hr
  have hopen' : Regex.Ast.read source.toList ≠ .error .groupUnopened := by
    intro herror
    rw [Regex.Expr.read, herror] at hopen
    exact hopen rfl
  obtain ⟨body, hbody, rfl⟩ := Regex.read_anchor hread hopen'
  rw [Regex.meaning_anchor] at hmeaning
  obtain ⟨⟨e, last⟩, he, hexpr⟩ := Success.bind_eq_ok.mp hmeaning
  refine ⟨e, names, Regex.read_expr_eq_ok.mpr ⟨body, last, hbody, he⟩, ?_⟩
  intro text caseSensitive'
  have hseq : r.expr = .sequence (Regex.anchoredItems caseSensitive e) := by
    have hpair : (Regex.Expr.sequence (Regex.anchoredItems caseSensitive e), _) = (r.expr, after) :=
      Success.pure_eq_ok.mp hexpr
    exact (congrArg Prod.fst hpair).symm
  show r.isMatch text = true ↔ _
  rw [Regex.isMatch_iff, hseq]
  constructor
  · rintro ⟨i, j, hi, hspans⟩
    obtain ⟨rfl, rfl, hwhole⟩ := (Regex.spans_anchored (by simpa using hi)).mp hspans
    simpa using hwhole
  · intro hwhole
    exact ⟨0, text.toList.length, Nat.zero_le _, (Regex.spans_anchored (Nat.zero_le _)).mpr ⟨rfl, by simp, hwhole⟩⟩

theorem accepts_iff_spans_whole_ignoringSpace :
    ∃ m, ofRegex "(?x)a | bc" true = .ok m ∧
      Regex.Expr.read { ignoreCase := !true } "(?x)a | bc".toList ≠ .error .groupUnopened ∧
      m.accepts "bc" true = true ∧ m.accepts "abc" true = false ∧
      ∃ e names, Regex.Expr.read { ignoreCase := !true } "(?x)a | bc".toList = .ok (e, names) ∧
        ∀ text caseSensitive', m.accepts text caseSensitive' = true ↔
          e.Spans text.toList.toArray 0 text.toList.length := by
  have hrun : (ofRegex "(?x)a | bc" true).toOption.map (fun m => (m.accepts "bc" true, m.accepts "abc" true)) =
      some (true, false) := by decide +kernel
  have hopen : Regex.Expr.read { ignoreCase := !true } "(?x)a | bc".toList ≠ .error .groupUnopened := by decide +kernel
  obtain ⟨m, hm, hvalues⟩ := Option.map_eq_some_iff.mp hrun
  obtain ⟨hmatch, hother⟩ := Prod.mk.inj hvalues
  rw [Success.toOption_eq_some] at hm
  exact ⟨m, hm, hopen, hmatch, hother, accepts_iff_spans_whole hm hopen⟩

/-- A stray bracket closes the group around the pattern: the two halves are anchored at one end each. -/
theorem ofRegex_strayBracket :
    Regex.Expr.read {} "a)|(?:b".toList = .error .groupUnopened ∧
      ∃ m, ofRegex "a)|(?:b" true = .ok m ∧ m.accepts "ax" true = true := by
  have hrun : (ofRegex "a)|(?:b" true).toOption.map (·.accepts "ax" true) = some true := by decide +kernel
  obtain ⟨m, hm, hvalue⟩ := Option.map_eq_some_iff.mp hrun
  rw [Success.toOption_eq_some] at hm
  exact ⟨rfl, m, hm, hvalue⟩

end GrammarCheck.Matcher
