import GrammarCheck.Proofs.Resolution
import GrammarCheck.Proofs.Rule.WellFormed
import GrammarCheck.Proofs.Search.BoundSpans

/-! References back to earlier positions. When the search comes to an element, all elements of the positions before its own
have been matched, and no later one comes from there: what the element sees bound is what the match will say. -/

namespace GrammarCheck

namespace Search

/-- The search goes from a point with some elements left to one further on. -/
inductive LeadsTo (table : FeatureTable) (s : Sentence) : List Element → Point → List Element → Point → Prop
  | here {elements p} : LeadsTo table s elements p elements p
  | step {e rest p q elements p'} (hq : q ∈ p.successors table s e) (hrest : LeadsTo table s rest q elements p') :
      LeadsTo table s (e :: rest) p elements p'

variable {table : FeatureTable} {s : Sentence}

/-- On its way the search matches the elements in order, and keeps what it has taken. -/
theorem LeadsTo.taken_eq {elements elements' : List Element} {p p' : Point}
    (h : LeadsTo table s elements p elements' p') :
    ∃ taken, p'.taken = p.taken ++ taken ∧ elements = taken.map (·.1) ++ elements' := by
  induction h with
  | here => exact ⟨[], (List.append_nil _).symm, rfl⟩
  | @step e rest p q elements p' hq _ ih =>
    obtain ⟨span, hfollows⟩ := Point.follows_of_mem_successors hq
    obtain ⟨taken, htaken, helements⟩ := ih
    refine ⟨(e, span) :: taken, ?_, ?_⟩
    · rw [htaken, hfollows.taken, List.append_assoc, List.singleton_append]
    · rw [helements, List.map_cons, List.cons_append]

/-- On the way to a point, the search has taken the front of what it takes in all. -/
theorem taken_of_leadsTo {elements rest : List Element} {p q p' : Point} {before after : List Taken}
    (hempty : p.taken = []) (hto : LeadsTo table s elements p rest q) (hfrom : LeadsTo table s rest q [] p')
    (htaken : p'.taken = before ++ after) (helements : elements = before.map (·.1) ++ rest) : q.taken = before := by
  obtain ⟨taken, hq, hfront⟩ := hto.taken_eq
  obtain ⟨others, hp', -⟩ := hfrom.taken_eq
  rw [hempty, List.nil_append] at hq
  rw [helements, List.append_cancel_right_eq] at hfront
  rw [htaken, hq] at hp'
  have hlength : before.length = taken.length := by
    rw [← List.length_map (·.1), hfront, List.length_map]
  rw [hq, (List.append_inj hp' hlength).1]

theorem leadsTo_of_mem_completions {elements : List Element} {p q : Point} (h : q ∈ completions table s elements p) :
    LeadsTo table s elements p [] q := by
  induction elements generalizing p with
  | nil =>
    rw [completions] at h
    split at h
    · exact List.mem_singleton.mp h ▸ .here
    · exact absurd h List.not_mem_nil
  | cons e rest ih =>
    obtain ⟨p', hp', hq⟩ := List.mem_flatMap.mp h
    exact .step hp' (ih hq)

theorem exists_leadsTo {front rest : List Element} {p q : Point} (h : q ∈ completions table s (front ++ rest) p) :
    ∃ p', LeadsTo table s (front ++ rest) p rest p' ∧ LeadsTo table s rest p' [] q := by
  induction front generalizing p with
  | nil => exact ⟨p, .here, leadsTo_of_mem_completions h⟩
  | cons e front ih =>
    obtain ⟨next, hnext, hq⟩ := List.mem_flatMap.mp h
    obtain ⟨p', hto, hfrom⟩ := ih hq
    exact ⟨p', .step hnext hto, hfrom⟩

end Search

/-- The texts are the same, up to case if case does not matter. -/
def Condition.SameText (c : Condition) (a b : String) : Prop :=
  if c.caseSensitive then a = b else Text.lowercase a = Text.lowercase b

namespace Assigned

variable {s : Sentence} {cursor : Nat} {gap : Bound} {guard : Option Element} {before : List Taken}

/-- The tokens of an element match with the positions bound that were taken before it. -/
theorem matchesAt_of_mem {front after : List Taken} {e : Element} {span : Span}
    (h : Assigned s cursor gap guard before (front ++ (e, span) :: after)) :
    ∀ j ∈ span.indices, e.matchesAt s j (some ⟨s, boundSpans (before ++ front) e.position⟩) = true := by
  -- Each element in front of it goes over to those that were taken before.
  induction front generalizing cursor gap guard before with
  | nil =>
    rw [List.append_nil]
    cases h with
    | consumed hspan _ => exact hspan.met
    | absent =>
      intro j hj
      have hin := Span.mem_indices.mp hj
      exact absurd (Nat.lt_of_le_of_lt hin.1 hin.2) (Nat.lt_irrefl _)
  | cons first front ih =>
    rw [← List.singleton_append, ← List.append_assoc]
    cases h with
    | consumed _ hrest => exact ih hrest
    | absent _ hrest => exact ih hrest

end Assigned

theorem Condition.sameText_of_holds {c : Condition} {t : Token} {b : Bindings} (h : c.holds t (some b) = true)
    (hplain : c.negate = false) {n : Nat} (hn : c.reference = some n) {text : String}
    (htext : b.firstText? n = some text) : c.SameText t.text text := by
  rw [holds, hplain, bne_iff_ne, ne_eq, Bool.not_eq_false, evaluate, Bool.and_eq_true, Bool.and_eq_true,
    Bool.and_eq_true] at h
  have hreference := h.1.1.2
  unfold referenceHolds at hreference
  rw [hn] at hreference
  dsimp only at hreference
  rw [Option.bind_some, htext] at hreference
  dsimp only at hreference
  unfold SameText
  split at hreference
  case isTrue hcase =>
    rw [if_pos hcase]
    exact beq_iff_eq.mp hreference
  case isFalse hcase =>
    rw [if_neg hcase]
    exact Text.eqLowercase_iff.mp hreference

/-- An element that refers to earlier positions sees what a match says of them. -/
structure Match.ShowsTo (m : Match) (s : Sentence) (e : Element) (span : Span) : Prop where
  /-- The positions that the element sees are bound to tokens of the sentence, or to none. -/
  resolved : ∀ n ∈ e.references, ∃ text,
    (Bindings.mk s (m.positions.take e.position)).firstText? n = some text ∧ (Bindings.mk s m.positions).FirstText n text
  sameText : e.condition.negate = false → ∀ n, e.condition.reference = some n →
    ∃ text, (Bindings.mk s m.positions).FirstText n text ∧
      ∀ j ∈ span.indices, ∃ t, s.token? j = some t ∧ e.condition.SameText t.text text

theorem Match.take_positions_ofPoint {r : Rule} {s : Sentence} {p : Point} {before after : List Taken} {position : Nat}
    (hp : p.taken = before ++ after) (hle : position ≤ r.positionCount) (hafter : ∀ t ∈ after, position ≤ t.1.position) :
    (ofPoint r s p).positions.take position = boundSpans before position := by
  rw [positions_ofPoint, hp, boundSpans_before hle hafter]

/-- References to positions before an element that are counted from one are resolved, and hold of its tokens. -/
theorem Match.showsTo {m : Match} {s : Sentence} {e : Element} {span : Span}
    (hfits : (Bindings.mk s (m.positions.take e.position)).Fits) (hlength : e.position ≤ m.positions.length)
    (hreferences : ∀ n ∈ e.references, 1 ≤ n ∧ n ≤ e.position)
    (hmatches : ∀ j ∈ span.indices, e.matchesAt s j (some ⟨s, m.positions.take e.position⟩) = true) :
    m.ShowsTo s e span := by
  have hresolved : ∀ n ∈ e.references, ∃ text,
      (Bindings.mk s (m.positions.take e.position)).firstText? n = some text ∧
        (Bindings.mk s m.positions).FirstText n text := by
    intro n hn
    obtain ⟨hlow, hhigh⟩ := hreferences n hn
    have hhigh : n ≤ (m.positions.take e.position).length := by
      rw [List.length_take, Nat.min_eq_left hlength]
      exact hhigh
    obtain ⟨text, htext⟩ := hfits.exists_firstText? hlow hhigh
    exact ⟨text, htext, (Bindings.firstText_of_firstText? htext).of_take⟩
  refine ⟨hresolved, fun hplain n hn => ?_⟩
  have hmem : n ∈ e.references :=
    List.mem_filterMap.mpr ⟨e.condition, List.mem_append_left _ List.mem_cons_self, hn⟩
  obtain ⟨text, htext, hfirst⟩ := hresolved n hmem
  refine ⟨text, hfirst, fun j hj => ?_⟩
  have hown := hmatches j hj
  unfold Element.matchesAt at hown
  split at hown
  · cases hown
  · rename_i t ht
    rw [Bool.and_eq_true, Bool.and_eq_true] at hown
    exact ⟨t, ht, Condition.sameText_of_holds hown.1.1 hplain hn htext⟩

namespace Rule

/-- An element with references has seen what the match says of the positions before its own: the search came to it, and
at each point at which it did so on the way to the match, these positions were bound as they are in the end. -/
theorem findMatches_bindings {source : String} {file : RuleFile} {context : RuleContext} {d : PatternDef} {r : Rule}
    (hread : RuleFile.read source = .ok file) (hcontext : RuleContext.ofFile file = .ok context)
    (hr : ComesFrom file context d r) {s : Sentence} {limit : Option Nat} {ms : List Match}
    (h : r.findMatches s limit = .ok ms) {m : Match} (hm : m ∈ ms) :
    ∃ i p steps, r.matchAt s none i 0 = .ok (some p, steps) ∧ m = Match.ofPoint r s p ∧
      p.taken.map (·.1) = r.elements ∧
      ∀ before e span after, p.taken = before ++ (e, span) :: after → e.hasReferences = true →
        (∃ q, Search.LeadsTo r.features s r.elements (.start i) (e :: after.map (·.1)) q ∧
          Search.LeadsTo r.features s (e :: after.map (·.1)) q [] p) ∧
        (∀ q, Search.LeadsTo r.features s r.elements (.start i) (e :: after.map (·.1)) q →
          Search.LeadsTo r.features s (e :: after.map (·.1)) q [] p →
            q.bindings? s e = some ⟨s, m.positions.take e.position⟩) ∧
        m.ShowsTo s e span := by
  have hwell := hr.isWellFormed_compiledPattern hread hcontext
  obtain ⟨i, p, steps, hi, hp, hmatch, rfl, helements, hassigned⟩ := exists_assigned_of_mem_findMatches h hm
  refine ⟨i, p, steps, hmatch, rfl, helements, fun before e span after hsplit href => ?_⟩
  have hsplitElements : r.elements = before.map (·.1) ++ (e :: after.map (·.1)) := by
    rw [← helements, hsplit, List.map_append, List.map_cons]
  have hmem : e ∈ r.elements := hsplitElements ▸ List.mem_append_right _ List.mem_cons_self
  -- The element comes in front of those behind it, and its position is one of the pattern.
  have hpositions := hwell.pairwise_taken helements
  rw [hsplit] at hpositions
  have hlater : ∀ t ∈ (e, span) :: after, e.position ≤ t.1.position :=
    List.forall_mem_cons.mpr ⟨Nat.le_refl _, (List.pairwise_cons.mp (List.pairwise_append.mp hpositions).2.1).1⟩
  have hle : e.position ≤ r.positionCount :=
    Nat.le_of_lt (hwell.mem_positions_iff.mp (List.mem_map_of_mem hmem))
  have htake : (Match.ofPoint r s p).positions.take e.position = boundSpans before e.position :=
    Match.take_positions_ofPoint hsplit hle hlater
  refine ⟨?_, fun q hto hfrom => ?_, ?_⟩
  · rw [Rule.completionsAt, hsplitElements] at hp
    rw [hsplitElements]
    exact Search.exists_leadsTo hp
  · have hq : q.taken = before := Search.taken_of_leadsTo rfl hto hfrom hsplit hsplitElements
    rw [Point.bindings?, href, if_pos rfl, hq, htake]
  · have hordered := hassigned.pairwise (Nat.le_of_lt hi)
    have hbetween := hassigned.liesBetween (Nat.le_of_lt hi)
    rw [hsplit] at hassigned hordered hbetween
    refine Match.showsTo ?_ ?_ (hwell.references e hmem) ?_
    · rw [htake]
      exact start_lt_of_mem_boundSpans (List.pairwise_append.mp hordered).1
        (fun t ht => hbetween t (List.mem_append_left _ ht)) e.position
    · exact (Match.length_positions_ofPoint r s p).symm ▸ hle
    · rw [htake]
      exact hassigned.matchesAt_of_mem

/-- A phrase of two words, an element that may be left out, and a reference to the phrase. -/
def repeatedPhrase : String :=
  "phrase p \x7b [\"of\"] [\"course\"] \x7d rule r \x7b pattern \x7b @p [\"but\", min=0] [ref=1] \x7d " ++
    "message \"m\"; \x7d"

/-- The element with the reference takes a token with the text of the first word of the phrase. -/
theorem findMatches_repeatedPhrase :
    ∃ file context d r s ms m, RuleFile.read repeatedPhrase = .ok file ∧ RuleContext.ofFile file = .ok context ∧
      ComesFrom file context d r ∧ r.findMatches s none = .ok ms ∧ m ∈ ms ∧
      m.positions = [⟨0, 2⟩, .empty 2, ⟨2, 3⟩] ∧
      ∃ i p steps before e span after q, r.matchAt s none i 0 = .ok (some p, steps) ∧ m = Match.ofPoint r s p ∧
        p.taken = before ++ (e, span) :: after ∧ e.references = [1] ∧
        Search.LeadsTo r.features s r.elements (.start i) (e :: after.map (·.1)) q ∧
        q.bindings? s e = some ⟨s, m.positions.take e.position⟩ ∧ m.ShowsTo s e span := by
  have hrun : ofFirstMatch? (fun r m => (m.positions, r.elements.getLast?.map (·.references))) repeatedPhrase
      (.ofTokens [.new "of" [], .new "course" [], .new "OF" []]) =
      some ([⟨0, 2⟩, .empty 2, ⟨2, 3⟩], some [1]) := by decide +kernel
  obtain ⟨file, context, d, r, ms, m, hread, hcontext, hcomes, hms, hm, hrun⟩ := exists_of_ofFirstMatch? hrun
  obtain ⟨hpositions, hlast⟩ := Prod.mk.inj hrun
  obtain ⟨e, he, hreferences⟩ := Option.map_eq_some_iff.mp hlast
  obtain ⟨i, p, steps, hmatch, hpoint, helements, hsees⟩ := findMatches_bindings hread hcontext hcomes hms hm
  have helement := List.mem_of_getLast? he
  rw [← helements] at helement
  obtain ⟨⟨e, span⟩, ht, rfl⟩ := List.mem_map.mp helement
  obtain ⟨before, after, hsplit⟩ := List.append_of_mem ht
  have hown : e.hasReferences = true := congrArg (fun l : List Nat => !l.isEmpty) hreferences
  obtain ⟨⟨q, hto, hfrom⟩, hbindings, hshows⟩ := hsees before e span after hsplit hown
  exact ⟨file, context, d, r, _, ms, m, hread, hcontext, hcomes, hms, hm, hpositions, i, p, steps, before, e, span,
    after, q, hmatch, hpoint, hsplit, hreferences, hto, hbindings q hto hfrom, hshows⟩

end Rule

end GrammarCheck
