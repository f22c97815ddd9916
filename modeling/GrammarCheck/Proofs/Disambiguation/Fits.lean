import GrammarCheck.Proofs.Disambiguation.Edits
import GrammarCheck.Proofs.Search.FixedLength

/-! Actions and the number of marked tokens. What an action says about each token is counted when a rule is compiled, if
its marker has one length; then every match has as many tokens as the action needs. -/

namespace GrammarCheck

open Success

namespace Compile

theorem eq_of_checkReadingCount {action : ActionKind} {readings n : Nat}
    (h : checkReadingCount action readings (some n) = .ok ()) : n = readings := by
  rw [checkReadingCount] at h
  split at h
  · assumption
  · cases h

theorem eq_one_of_checkSingleToken {action : ActionKind} {n : Nat} (h : checkSingleToken action (some n) = .ok ()) :
    n = 1 := by
  rw [checkSingleToken] at h
  split at h
  · assumption
  · cases h

theorem fits_of_removal {d : DisambiguationDef} {n : Nat} {target : Removal} (h : removal d (some n) = .ok target)
    {m : Match} (hsize : m.range.size = n) : (Action.remove target).Fits m := by
  unfold removal at h
  split at h
  · obtain ⟨_, hcount, h⟩ := bind_eq_ok.mp h
    obtain rfl := pure_eq_ok.mp h
    exact hsize.trans (eq_of_checkReadingCount hcount)
  · split at h
    · obtain ⟨_, -, h⟩ := bind_eq_ok.mp h
      obtain rfl := pure_eq_ok.mp h
      trivial
    · cases h

/-- The count that an action needs is the one that is checked; each kind of action has a check of its own. -/
theorem fits_of_action {d : DisambiguationDef} {r : Rule} {a : Action} (h : action d r = .ok a) {n : Nat}
    (hn : r.fixedMarkerLength? = some n) {m : Match} (hsize : m.range.size = n)
    (hunified : r.markerAgreementCount = r.marker.size → m.markerUnifiedTokens = n) : a.Fits m := by
  unfold action at h
  rw [hn] at h
  generalize d.action.kind = kind at h
  cases kind with
    dsimp only at h
  | replace =>
    split at h
    case isTrue hempty =>
      obtain ⟨_, hcheck, h⟩ := bind_eq_ok.mp h
      obtain rfl := pure_eq_ok.mp h
      rw [List.isEmpty_iff.mp hempty]
      exact hsize.trans (eq_one_of_checkSingleToken hcheck)
    case isFalse hne =>
      obtain ⟨_, hcheck, h⟩ := bind_eq_ok.mp h
      obtain rfl := pure_eq_ok.mp h
      obtain ⟨first, rest, hreadings⟩ := List.exists_cons_of_ne_nil (mt List.isEmpty_iff.mpr hne)
      have hcount := eq_of_checkReadingCount hcheck
      rw [hreadings] at hcount ⊢
      exact hsize.trans hcount
  | add =>
    split at h
    case isTrue => cases h
    case isFalse =>
      obtain ⟨_, hcheck, h⟩ := bind_eq_ok.mp h
      obtain rfl := pure_eq_ok.mp h
      exact hsize.trans (eq_of_checkReadingCount hcheck)
  | remove =>
    obtain ⟨target, htarget, h⟩ := bind_eq_ok.mp h
    obtain rfl := pure_eq_ok.mp h
    exact fits_of_removal htarget hsize
  | filter =>
    obtain ⟨reference, hreference, h⟩ := bind_eq_ok.mp h
    obtain rfl := pure_eq_ok.mp h
    obtain ⟨_, hcheck, -⟩ := bind_eq_ok.mp hreference
    exact hsize.trans (eq_one_of_checkSingleToken hcheck)
  | unify =>
    split at h
    case isTrue hcount =>
      obtain rfl := pure_eq_ok.mp h
      exact (hunified hcount).trans hsize.symm
    case isFalse => cases h
  | immunize =>
    obtain rfl := pure_eq_ok.mp h
    trivial
  | ignoreSpelling =>
    obtain rfl := pure_eq_ok.mp h
    trivial

end Compile

namespace DisambiguationRule

theorem run_of_fits {q : DisambiguationRule} {s : Sentence} {limit : Option Nat}
    (h : ∀ ms, q.rule.findMatches s limit = .ok ms → ∀ m ∈ ms, q.action.Fits m) :
    (∃ count, (q.run s limit).2 = .ok count) ∨ ∃ n, limit = some n ∧ (q.run s limit).2 = .error (.stepLimit n) := by
  rcases q.rule.findMatches_eq_or s limit with hok | ⟨n, hlimit, herror⟩
  · refine Or.inl ⟨((q.rule.scan s).map (·.2)).length, ?_⟩
    rw [run, hok]
    dsimp only
    rw [Action.run_applyAll_of_fits (h _ hok)]
  · refine Or.inr ⟨n, hlimit, ?_⟩
    rw [run, herror]

end DisambiguationRule

namespace Rule

/-- A marker of one length covers as many tokens in every match, and an action on it never has the wrong number of them:
it can only be left undone because the search took too many steps. -/
theorem fixedMarkerLength_holds {r : Rule} (hr : r.IsCompiled) {n : Nat} (hn : r.fixedMarkerLength? = some n)
    {s : Sentence} (hs : s.size < UInt64.size) (limit : Option Nat) :
    (∀ ms, r.findMatches s limit = .ok ms → ∀ m ∈ ms, m.range.size = n) ∧
      ∀ context d rules (q : DisambiguationRule), Compile.disambiguationRules context d = .ok rules → q ∈ rules →
        q.rule = r → (∃ count, (q.run s limit).2 = .ok count) ∨
          ∃ steps, limit = some steps ∧ (q.run s limit).2 = .error (.stepLimit steps) := by
  constructor
  · intro ms hms m hm
    exact (range_of_fixedMarkerLength? hr hn hs hms m hm).1
  · rintro context d rules q hrules hq rfl
    obtain ⟨ps, -, hrules⟩ := bind_eq_ok.mp hrules
    obtain ⟨p, -, hone⟩ := exists_of_mem_of_mapM_eq_ok hrules hq
    obtain ⟨a, haction, hone⟩ := bind_eq_ok.mp hone
    obtain rfl := pure_eq_ok.mp hone
    refine DisambiguationRule.run_of_fits fun ms hms m hm => ?_
    obtain ⟨hsize, hunified⟩ := range_of_fixedMarkerLength? hr hn hs hms m hm
    exact Compile.fits_of_action (mapError_eq_ok.mp haction) hn hsize hunified

/-- Three tokens that have to agree, behind an element that may be left out with a gap. -/
def agreeingMarker : String :=
  "unification number \x7b sg = pos=\"S\"; pl = pos=\"P\"; \x7d disambig D \x7b pattern \x7b [\"o\", min=0, skip=1] " ++
    "marker \x7b unify(number) \x7b [pos=\"P\"] [pos=\"P\", min=2, max=2] \x7d \x7d \x7d action unify; \x7d"

theorem fixedMarkerLength_agreeingMarker :
    ∃ (q : DisambiguationRule) (s : Sentence) (m : Match), q.rule.IsCompiled ∧ q.rule.fixedMarkerLength? = some 3 ∧
      s.size < UInt64.size ∧ q.action.kind = .unify ∧ q.rule.findMatches s none = .ok [m] ∧ m.range.size = 3 ∧
      ((∃ count, (q.run s none).2 = .ok count) ∨
        ∃ steps, none = some steps ∧ (q.run s none).2 = .error (.stepLimit steps)) := by
  let plural (text : String) : Token := .new text [⟨none, some "P"⟩]
  let s : Sentence := .ofTokens [.new "x" [], plural "a", plural "b", plural "c"]
  have hrun : ((RuleFile.read agreeingMarker).toOption.bind fun file => (RuleContext.ofFile file).toOption.bind
      fun context => file.disambiguations.head?.bind fun d => (Compile.disambiguationRules context d).toOption.bind
        fun rules => rules.head?.bind fun q => (q.rule.findMatches s none).toOption.bind fun ms =>
          ms.head?.map fun _ => (q.rule.fixedMarkerLength?, q.action.kind, ms.length)) =
      some (some 3, .unify, 1) := by decide +kernel
  obtain ⟨file, -, hrun⟩ := Option.bind_eq_some_iff.mp hrun
  obtain ⟨context, -, hrun⟩ := Option.bind_eq_some_iff.mp hrun
  obtain ⟨d, -, hrun⟩ := Option.bind_eq_some_iff.mp hrun
  obtain ⟨rules, hrules, hrun⟩ := Option.bind_eq_some_iff.mp hrun
  obtain ⟨q, hhead, hrun⟩ := Option.bind_eq_some_iff.mp hrun
  obtain ⟨ms, hms, hrun⟩ := Option.bind_eq_some_iff.mp hrun
  obtain ⟨m, hm, hvalues⟩ := Option.map_eq_some_iff.mp hrun
  simp only [Prod.mk.injEq] at hvalues
  obtain ⟨hlength, hkind, hone⟩ := hvalues
  rw [toOption_eq_some] at hrules hms
  have hq : q ∈ rules := List.mem_of_head? hhead
  have hcompiled : q.rule.IsCompiled := .disambiguation hrules hq
  have hs : s.size < UInt64.size := by decide +kernel
  obtain ⟨m', rfl⟩ := List.length_eq_one_iff.mp hone
  obtain rfl : m' = m := Option.some_inj.mp hm
  obtain ⟨hsize, hfits⟩ := fixedMarkerLength_holds hcompiled hlength hs none
  exact ⟨q, s, m', hcompiled, hlength, hs, hkind, hms, hsize _ hms m' (List.mem_singleton_self m'),
    hfits context d rules q hrules hq rfl⟩

end Rule

end GrammarCheck
