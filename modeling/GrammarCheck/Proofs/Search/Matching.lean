import GrammarCheck.Proofs.Search.Completions
import GrammarCheck.Proofs.Search.Successors

/-! What the search finds. The completions of a point are the assignments for the elements that are left, as far as
agreement lets them through while it is watched token by token. For groups that stand together this watch lets
through the assignments whose groups are met as a whole. -/

namespace GrammarCheck

namespace Search

variable (table : FeatureTable) (s : Sentence)

/-- Agreement is watched while elements take their spans: a group that has to agree must do so after each token, and
its verdict is given where it ends. -/
def Judged : Agreement → List Taken → Prop
  | _, [] => True
  | a, (e, span) :: rest =>
    Point.KeepsAgreeing table s e span a ∧ Point.Passes e (Point.agreementAfter table s e span a) ∧
      Judged (Point.nextAgreement e (Point.agreementAfter table s e span a)) rest

theorem isNonempty_iff (p : Point) : p.isNonempty = true ↔ ∃ t ∈ p.taken, t.2.isEmpty = false := by
  simp [Point.isNonempty, Point.spans]

theorem assignment_of_mem_completions {elements : List Element} {p q : Point}
    (h : q ∈ completions table s elements p) :
    ∃ taken, q.taken = p.taken ++ taken ∧ taken.map (·.1) = elements ∧
      Assigned s p.cursor p.gap p.guard p.taken taken ∧ Judged table s p.agreement taken ∧ q.isNonempty = true := by
  induction elements generalizing p with
  | nil =>
    rw [completions] at h
    split at h
    · rename_i hne
      rw [List.mem_singleton.mp h]
      exact ⟨[], (List.append_nil _).symm, rfl, .done, trivial, hne⟩
    · exact absurd h List.not_mem_nil
  | cons e rest ih =>
    obtain ⟨p', hp', hq⟩ := List.mem_flatMap.mp h
    obtain ⟨span, hfollows⟩ := Point.follows_of_mem_successors hp'
    obtain ⟨others, htaken, helements, hassigned, hjudged, hne⟩ := ih hq
    rw [hfollows.taken, hfollows.cursor] at hassigned
    rw [hfollows.agreement] at hjudged
    refine ⟨(e, span) :: others, ?_, ?_, ?_, ⟨hfollows.keeps, hfollows.passes, hjudged⟩, hne⟩
    · rw [htaken, hfollows.taken, List.append_assoc, List.singleton_append]
    · rw [List.map_cons, helements]
    · rcases hfollows.kind with ⟨hconsumes, hgap, hguard⟩ | ⟨hmin, rfl, hgap, hguard⟩
      · rw [hgap, hguard] at hassigned
        exact .consumed hconsumes hassigned
      · rw [hgap, hguard] at hassigned
        exact .absent hmin hassigned

theorem exists_mem_completions {elements : List Element} {p : Point} {taken : List Taken}
    (helements : taken.map (·.1) = elements) (hassigned : Assigned s p.cursor p.gap p.guard p.taken taken)
    (hjudged : Judged table s p.agreement taken) (hne : ∃ t ∈ p.taken ++ taken, t.2.isEmpty = false) :
    ∃ q ∈ completions table s elements p, q.taken = p.taken ++ taken := by
  induction elements generalizing p taken with
  | nil =>
    rw [List.map_eq_nil_iff] at helements
    subst helements
    rw [List.append_nil] at hne
    refine ⟨p, ?_, (List.append_nil _).symm⟩
    rw [completions, if_pos ((isNonempty_iff p).mpr hne)]
    exact List.mem_singleton_self p
  | cons e rest ih =>
    obtain ⟨⟨e', span⟩, others, rfl, rfl, hothers⟩ := List.map_eq_cons_iff.mp helements
    obtain ⟨hkeeps, hpasses, hjudged⟩ := hjudged
    have hstep : ∃ p' ∈ p.successors table s e', Point.Follows table s p e' span p' ∧
        Assigned s p'.cursor p'.gap p'.guard p'.taken others := by
      cases hassigned with
      | consumed hspan hrest =>
        obtain ⟨p', hmem, hfollows, hgap, hguard⟩ := Point.exists_successor_of_consumes hspan hkeeps hpasses
        exact ⟨p', hmem, hfollows, by rwa [hfollows.cursor, hfollows.taken, hgap, hguard]⟩
      | absent hmin hrest =>
        obtain ⟨p', hmem, hfollows, hgap, hguard⟩ := Point.exists_successor_of_absent hmin hpasses
        exact ⟨p', hmem, hfollows, by rwa [hfollows.cursor, hfollows.taken, hgap, hguard]⟩
    obtain ⟨p', hmem, hfollows, hassigned⟩ := hstep
    rw [← hfollows.agreement] at hjudged
    obtain ⟨q, hq, htaken⟩ := ih hothers hassigned hjudged
      (by rwa [hfollows.taken, List.append_assoc, List.singleton_append])
    refine ⟨q, List.mem_flatMap.mpr ⟨p', hmem, hq⟩, ?_⟩
    rw [htaken, hfollows.taken, List.append_assoc, List.singleton_append]

/-- Groups stand together: where a group does not end, the next element is in it, and no element after its end is. -/
def Grouped : List Element → Prop
  | [] => True
  | e :: rest =>
    (∀ slot, e.agreement = some slot →
      if slot.last then ∀ e' ∈ rest, ∀ slot', e'.agreement = some slot' → slot'.group ≠ slot.group
      else ∃ e' slot', rest.head? = some e' ∧ e'.agreement = some slot' ∧ slot'.group = slot.group ∧
        slot'.features = slot.features ∧ slot'.negate = slot.negate) ∧
    Grouped rest

/-- The tokens that count for a group besides those of the elements to come: the ones its elements before them took, if
it is the group of the next element. -/
def tokensBefore (before : List Token) (elements : List Element) (group : Nat) : List Token :=
  if (elements.head?.bind (·.agreement)).map (·.group) = some group then before else []

/-- The agreement of the next element's group after the tokens that its elements have taken. -/
def openAgreement (before : List Token) : List Element → Agreement
  | [] => .start
  | e :: _ =>
    match e.agreement with
    | none => .start
    | some slot => Agreement.start.addAll table slot.features before

theorem openAgreement_nil (elements : List Element) : openAgreement table [] elements = .start := by
  unfold openAgreement
  split
  · rfl
  · split <;> rfl

theorem tokensBefore_nil (elements : List Element) (group : Nat) : tokensBefore [] elements group = [] := by
  unfold tokensBefore
  split <;> rfl

theorem groupTokens_cons (group : Nat) (e : Element) (span : Span) (rest : List Taken) :
    groupTokens s group ((e, span) :: rest) =
      (if e.agreement.map (·.group) = some group then s.slice span else []) ++ groupTokens s group rest := by
  unfold groupTokens
  rw [List.filter_cons]
  by_cases h : e.agreement.map (·.group) = some group
  · rw [if_pos (by simpa [Taken.isIn] using h), if_pos h, List.flatMap_cons]
  · rw [if_neg (by simpa [Taken.isIn] using h), if_neg h, List.nil_append]

theorem agrees_of_accepts {slot : AgreementSlot} {tokens : List Token} (hplain : slot.negate = false)
    (h : slot.Accepts table tokens) : (Agreement.start.addAll table slot.features tokens).agrees = true := by
  rcases eq_or_ne tokens [] with rfl | hne
  · rfl
  · rcases h.mpr hplain with hnil | hall
    · exact absurd hnil hne
    · exact (Agreement.agrees_addAll_start table slot.features hne).mpr hall

theorem keepsAgreeing_of_accepts {e : Element} {slot : AgreementSlot} (hslot : e.agreement = some slot)
    (before after : List Token) (span : Span) (h : slot.Accepts table (before ++ s.slice span ++ after)) :
    Point.KeepsAgreeing table s e span (Agreement.start.addAll table slot.features before) := by
  intro slot' hslot' hplain n _
  rw [hslot, Option.some_inj] at hslot'
  subst hslot'
  have hwhole := agrees_of_accepts table hplain h
  rw [← List.take_append_drop (n + 1) (s.slice span), ← List.append_assoc, List.append_assoc] at hwhole
  rw [← Agreement.addAll_append]
  exact Agreement.agrees_addAll_of_append table slot.features hwhole

theorem tokensBefore_append (before : List Token) {e : Element} {slot : AgreementSlot}
    (hslot : e.agreement = some slot) (span : Span) (rest : List Taken) (group : Nat) :
    tokensBefore before (e :: rest.map (·.1)) group ++ groupTokens s group ((e, span) :: rest) =
      (if slot.group = group then before ++ s.slice span else []) ++ groupTokens s group rest := by
  simp only [groupTokens_cons, tokensBefore, List.head?_cons, Option.bind_some, hslot, Option.map_some,
    Option.some_inj]
  split
  · rw [List.append_assoc]
  · rfl

theorem groupTokens_eq_nil {group : Nat} {taken : List Taken}
    (h : ∀ e ∈ taken.map (·.1), ∀ slot, e.agreement = some slot → slot.group ≠ group) :
    groupTokens s group taken = [] := by
  have hnone : taken.filter (Taken.isIn group) = [] := by
    refine List.filter_eq_nil_iff.mpr fun t ht hin => ?_
    simp only [Taken.isIn, beq_iff_eq, Option.map_eq_some_iff] at hin
    obtain ⟨slot, hslot, hgroup⟩ := hin
    exact h t.1 (List.mem_map_of_mem ht) slot hslot hgroup
  rw [groupTokens, hnone, List.flatMap_nil]

/-- Watching groups token by token comes to the same as judging each one as a whole. The induction is on the elements;
the tokens of the group that is open at its start count for it. -/
theorem judged_iff {taken : List Taken} (hgroups : Grouped (taken.map (·.1))) (before : List Token) :
    Judged table s (openAgreement table before (taken.map (·.1))) taken ↔
      ∀ e ∈ taken.map (·.1), ∀ slot, e.agreement = some slot →
        slot.Accepts table (tokensBefore before (taken.map (·.1)) slot.group ++ groupTokens s slot.group taken) := by
  induction taken generalizing before with
  | nil => simp [Judged]
  | cons t rest ih =>
    obtain ⟨e, span⟩ := t
    obtain ⟨hhead, hrest⟩ := hgroups
    simp only [List.map_cons, List.forall_mem_cons]
    cases hslot : e.agreement with
    | none =>
      have hopen : openAgreement table before (e :: rest.map (·.1)) = .start := by simp [openAgreement, hslot]
      have hbefore (group : Nat) : tokensBefore before (e :: rest.map (·.1)) group = [] := by
        simp [tokensBefore, hslot]
      have hih := ih hrest []
      rw [openAgreement_nil] at hih
      simp only [tokensBefore_nil, List.nil_append] at hih
      simp only [hopen, hbefore, groupTokens_cons, Judged, Point.agreementAfter, Point.nextAgreement,
        Point.KeepsAgreeing, Point.Passes, hslot, hih, Option.map_none, reduceCtorEq, if_false, false_implies,
        implies_true, true_and, List.nil_append]
    | some slot =>
      have hopen : openAgreement table before (e :: rest.map (·.1)) =
          Agreement.start.addAll table slot.features before := by simp [openAgreement, hslot]
      have hafter : Point.agreementAfter table s e span (Agreement.start.addAll table slot.features before) =
          Agreement.start.addAll table slot.features (before ++ s.slice span) := by
        simp [Point.agreementAfter, hslot, Agreement.addAll_append]
      simp only [hopen, Judged, hafter, tokensBefore_append s before hslot]
      have hhead := hhead slot hslot
      cases hlast : slot.last with
      | true =>
        rw [hlast, if_pos rfl] at hhead
        have hnext : Point.nextAgreement e (Agreement.start.addAll table slot.features (before ++ s.slice span)) =
            openAgreement table [] (rest.map (·.1)) := by
          simp [Point.nextAgreement, hslot, hlast, openAgreement_nil]
        have hend := groupTokens_eq_nil s hhead
        have hpasses : Point.Passes e (Agreement.start.addAll table slot.features (before ++ s.slice span)) ↔
            slot.Accepts table (before ++ s.slice span) := by
          rw [← Agreement.satisfies_addAll_start]
          exact ⟨fun h => h slot hslot hlast, fun h slot' hslot' _ => by
            rw [hslot, Option.some_inj] at hslot'
            rwa [← hslot']⟩
        have hothers : (∀ e' ∈ rest.map (·.1), ∀ slot', e'.agreement = some slot' → slot'.Accepts table
            ((if slot.group = slot'.group then before ++ s.slice span else []) ++
              groupTokens s slot'.group rest)) ↔
            ∀ e' ∈ rest.map (·.1), ∀ slot', e'.agreement = some slot' →
              slot'.Accepts table (groupTokens s slot'.group rest) := by
          refine forall₂_congr fun e' he' => forall₂_congr fun slot' hslot' => ?_
          rw [if_neg (hhead e' he' slot' hslot').symm, List.nil_append]
        rw [hnext, ih hrest [], hpasses, hothers]
        simp only [tokensBefore_nil, List.nil_append, Option.some_inj, forall_eq', if_true, hend, List.append_nil]
        refine ⟨fun h => h.2, fun h => ⟨?_, h⟩⟩
        exact keepsAgreeing_of_accepts table s hslot before [] span (by rw [List.append_nil]; exact h.1)
      | false =>
        rw [hlast, if_neg Bool.false_ne_true] at hhead
        obtain ⟨e', slot', hhead', hslot', hgroup, hfeatures, hnegate⟩ := hhead
        have hnext : Point.nextAgreement e (Agreement.start.addAll table slot.features (before ++ s.slice span)) =
            openAgreement table (before ++ s.slice span) (rest.map (·.1)) := by
          obtain ⟨tail, htail⟩ := List.head?_eq_some_iff.mp hhead'
          simp [Point.nextAgreement, hslot, hlast, htail, openAgreement, hslot', hfeatures]
        have hpasses : Point.Passes e (Agreement.start.addAll table slot.features (before ++ s.slice span)) := by
          intro slot'' hslot'' hlast''
          rw [hslot, Option.some_inj] at hslot''
          rw [← hslot'', hlast] at hlast''
          exact absurd hlast'' Bool.false_ne_true
        have hwhole (group : Nat) : tokensBefore (before ++ s.slice span) (rest.map (·.1)) group =
            if slot.group = group then before ++ s.slice span else [] := by
          simp [tokensBefore, hhead', hslot', hgroup]
        rw [hnext, ih hrest (before ++ s.slice span)]
        simp only [hwhole, Option.some_inj, forall_eq', if_true]
        constructor
        · -- the next element belongs to the same group, and so its verdict is the one of this element
          rintro ⟨-, -, h⟩
          refine ⟨?_, h⟩
          have hsame := h e' (List.mem_of_mem_head? hhead') slot' hslot'
          rw [hgroup, if_pos rfl] at hsame
          simpa only [AgreementSlot.Accepts, hfeatures, hnegate] using hsame
        · rintro ⟨hown, h⟩
          exact ⟨keepsAgreeing_of_accepts table s hslot before _ span hown, hpasses, h⟩

end Search

end GrammarCheck
