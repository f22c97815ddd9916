import GrammarCheck.Proofs.Search.Completions

/-! The scan of a sentence without its counter. From each token that is looked at comes the preferred match or none; the
limit on steps can only cut the scan short, so without one there always is an answer. -/

namespace GrammarCheck

namespace Rule

/-- The matches from a token on, each with the token its search started at. -/
def scanFrom (r : Rule) (s : Sentence) (i : Nat) (last : Option Span) : List (Nat × Match) :=
  if i < s.size then
    match (r.completionsAt s i).head? with
    | none => scanFrom r s (i + 1) last
    | some p =>
      let m := Match.ofPoint r s p
      let rest := scanFrom r s (r.resume i m) (some m.pattern)
      if last = some m.pattern then rest else (i, m) :: rest
  else []
termination_by s.size - i
decreasing_by
  · omega
  · have := r.lt_resume i (Match.ofPoint r s p)
    omega

def scan (r : Rule) (s : Sentence) : List (Nat × Match) := r.scanFrom s 0 none

variable {r : Rule} {s : Sentence}

theorem scanFrom_of_le {i : Nat} (hi : s.size ≤ i) (last : Option Span) : r.scanFrom s i last = [] := by
  rw [scanFrom, if_neg (Nat.not_lt_of_le hi)]

theorem scanFrom_of_none {i : Nat} (h : (r.completionsAt s i).head? = none) (last : Option Span) :
    r.scanFrom s i last = r.scanFrom s (i + 1) last := by
  rcases Nat.lt_or_ge i s.size with hi | hi
  · conv_lhs => rw [scanFrom, if_pos hi, h]
  · rw [scanFrom_of_le hi, scanFrom_of_le (by omega)]

theorem scanFrom_of_some {i : Nat} (hi : i < s.size) {p : Point} (h : (r.completionsAt s i).head? = some p)
    (last : Option Span) : r.scanFrom s i last =
      if last = some (Match.ofPoint r s p).pattern then
        r.scanFrom s (r.resume i (Match.ofPoint r s p)) (some (Match.ofPoint r s p).pattern)
      else (i, Match.ofPoint r s p) ::
        r.scanFrom s (r.resume i (Match.ofPoint r s p)) (some (Match.ofPoint r s p).pattern) := by
  conv_lhs => rw [scanFrom, if_pos hi, h]

/-- The points that the searches from a token on visit, in order. -/
def visitedFrom (r : Rule) (s : Sentence) (i : Nat) : List Point :=
  if i < s.size then
    r.visitedAt s i ++
      match (r.completionsAt s i).head? with
      | none => visitedFrom r s (i + 1)
      | some p => visitedFrom r s (r.resume i (Match.ofPoint r s p))
  else []
termination_by s.size - i
decreasing_by
  · omega
  · have := r.lt_resume i (Match.ofPoint r s p)
    omega

/-- The points that are visited to find all matches. -/
def visited (r : Rule) (s : Sentence) : List Point := if r.elements.isEmpty then [] else r.visitedFrom s 0

/-- Both scans look at the same tokens, and each point that is visited is a step. -/
theorem matchesFrom_eq_metered (r : Rule) (s : Sentence) (limit : Option Nat) (i : Nat) (last : Option Span) :
    r.matchesFrom s limit i last =
      Search.metered limit ((r.scanFrom s i last).map (·.2)) (r.visitedFrom s i).length := by
  -- The scan goes on at the next token or behind a match, so fewer tokens are left in both cases.
  induction hleft : s.size - i using Nat.strongRecOn generalizing i last with
  | ind left ih =>
    rcases Nat.lt_or_ge i s.size with hi | hi
    · rw [matchesFrom, visitedFrom, if_pos hi, if_pos hi, matchAt_eq_metered, List.length_append]
      cases hhead : (r.completionsAt s i).head? with
      | none =>
        have hlater := ih _ (by omega) (i + 1) last rfl
        rw [scanFrom_of_none hhead]
        exact Search.metered_bind hlater
      | some p =>
        have hresume := r.lt_resume i (Match.ofPoint r s p)
        have hlater := ih _ (by omega) (r.resume i (Match.ofPoint r s p))
          (some (Match.ofPoint r s p).pattern) rfl
        rw [scanFrom_of_some hi hhead]
        apply Search.metered_bind
        dsimp only
        rw [hlater, ← Nat.add_zero (r.visitedFrom s (r.resume i (Match.ofPoint r s p))).length]
        apply Search.metered_bind
        rw [Search.pure_eq_metered limit]
        split <;> rfl
    · rw [matchesFrom, visitedFrom, if_neg (Nat.not_lt_of_le hi), if_neg (Nat.not_lt_of_le hi), scanFrom_of_le hi]
      exact Search.pure_eq_metered limit []

theorem scanFrom_eq_nil (h : ∀ i, r.completionsAt s i = []) (i : Nat) (last : Option Span) :
    r.scanFrom s i last = [] := by
  induction hleft : s.size - i generalizing i with
  | zero => exact scanFrom_of_le (by omega) last
  | succ n ih =>
    have hnone : (r.completionsAt s i).head? = none := by rw [h, List.head?_nil]
    rw [scanFrom_of_none hnone]
    exact ih (i + 1) (by omega)

theorem findMatches_eq_metered (r : Rule) (s : Sentence) (limit : Option Nat) : r.findMatches s limit =
    (Search.metered limit ((r.scan s).map (·.2)) (r.visited s).length 0).map (·.1) := by
  unfold findMatches visited
  split
  case isTrue hempty =>
    have hnone (i : Nat) : r.completionsAt s i = [] := by
      rw [completionsAt, List.isEmpty_iff.mp hempty]
      rfl
    rw [scan, scanFrom_eq_nil hnone, List.length_nil, List.map_nil, ← Search.pure_eq_metered limit]
    rfl
  case isFalse => rw [matchesFrom_eq_metered]; rfl

/-- The limit decides whether there is an answer, but not which one. -/
theorem findMatches_eq_or (r : Rule) (s : Sentence) (limit : Option Nat) :
    r.findMatches s limit = .ok ((r.scan s).map (·.2)) ∨
      ∃ n, limit = some n ∧ r.findMatches s limit = .error (.stepLimit n) := by
  rw [findMatches_eq_metered]
  rcases Search.metered_cases limit ((r.scan s).map (·.2)) (r.visited s).length 0 with hok | ⟨n, hlimit, herror⟩
  · rw [hok]
    exact Or.inl rfl
  · rw [herror]
    exact Or.inr ⟨n, hlimit, rfl⟩

theorem findMatches_none (r : Rule) (s : Sentence) : r.findMatches s none = .ok ((r.scan s).map (·.2)) := by
  rcases r.findMatches_eq_or s none with h | ⟨n, hlimit, -⟩
  · exact h
  · exact nomatch hlimit

/-- There always is an answer without a limit, and a limit keeps it back exactly if it is lower than the number of points
that are visited. -/
theorem findMatches_limited (r : Rule) (s : Sentence) : ∃ ms, r.findMatches s none = .ok ms ∧
    ∀ limit, r.findMatches s (some limit) =
      if limit < (r.visited s).length then .error (.stepLimit limit) else .ok ms := by
  refine ⟨(r.scan s).map (·.2), r.findMatches_none s, fun limit => ?_⟩
  rw [findMatches_eq_metered]
  split
  case isTrue hlow =>
    have hfails : ¬((r.visited s).length = 0 ∨ 0 + (r.visited s).length ≤ limit) := by omega
    rw [Search.metered_of_lt hfails]
    rfl
  case isFalse hhigh =>
    rw [Search.metered_of_le (by omega)]
    rfl

theorem eq_scan_of_findMatches {limit : Option Nat} {ms : List Match} (h : r.findMatches s limit = .ok ms) :
    ms = (r.scan s).map (·.2) := by
  rcases r.findMatches_eq_or s limit with hok | ⟨n, -, herror⟩
  · exact Except.ok.inj (h.symm.trans hok)
  · exact nomatch h.symm.trans herror

/-- What is found from a token on was found at that token or a later one. -/
theorem of_mem_scanFrom {i : Nat} {last : Option Span} {j : Nat} {m : Match} (h : (j, m) ∈ r.scanFrom s i last) :
    i ≤ j ∧ j < s.size ∧ ∃ p, (r.completionsAt s j).head? = some p ∧ m = Match.ofPoint r s p := by
  fun_induction scanFrom r s i last with
  | case1 i last _ hhead ih =>
    obtain ⟨hle, hfound⟩ := ih h
    exact ⟨by omega, hfound⟩
  | case2 i hi p hhead m' rest ih =>
    have hresume := r.lt_resume i m'
    obtain ⟨hle, hfound⟩ := ih h
    exact ⟨by omega, hfound⟩
  | case3 i last hi p hhead m' rest _ ih =>
    have hresume := r.lt_resume i m'
    rcases List.mem_cons.mp h with hfirst | h
    · obtain ⟨rfl, rfl⟩ := Prod.mk.inj hfirst
      exact ⟨Nat.le_refl _, hi, p, hhead, rfl⟩
    · obtain ⟨hle, hfound⟩ := ih h
      exact ⟨by omega, hfound⟩
  | case4 => exact absurd h List.not_mem_nil

end Rule

end GrammarCheck
