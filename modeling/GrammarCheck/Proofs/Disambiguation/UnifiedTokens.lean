import GrammarCheck.Proofs.Disambiguation.Edits
import GrammarCheck.Proofs.Rule.WellFormed
import GrammarCheck.Proofs.Search.Matches

/-! The tokens of groups of agreement. The search counts the tokens of a group when the group ends, so at each point the
tokens counted and those of the group that is open are the ones that elements of groups have taken. The action that
looks at agreement holds the count in the marker against the marker. -/

namespace GrammarCheck

def Element.isGrouped (e : Element) : Bool := e.agreement.isSome

/-- The tokens that elements of groups took, in order. -/
def groupedIndices (taken : List Taken) : List Nat := (taken.filter (·.1.isGrouped)).flatMap (·.2.indices)

/-- Was a token taken by an element of a group? -/
def isUnified (taken : List Taken) (i : Nat) : Bool := taken.any fun t => t.1.isGrouped && t.2.contains i

variable {taken : List Taken}

theorem mem_groupedIndices {i : Nat} : i ∈ groupedIndices taken ↔ isUnified taken i = true := by
  simp only [groupedIndices, isUnified, List.mem_flatMap, List.mem_filter, List.any_eq_true, Bool.and_eq_true,
    Span.mem_indices, Span.contains_iff, and_assoc]

theorem groupedIndices_append (taken taken' : List Taken) :
    groupedIndices (taken ++ taken') = groupedIndices taken ++ groupedIndices taken' := by
  rw [groupedIndices, List.filter_append, List.flatMap_append]
  rfl

theorem groupedIndices_singleton (e : Element) (span : Span) :
    groupedIndices [(e, span)] = if e.isGrouped then span.indices else [] := by
  unfold groupedIndices
  rw [List.filter_singleton]
  cases e.isGrouped with
  | true => exact List.flatMap_singleton ..
  | false => rfl

theorem Span.length_indices (span : Span) : span.indices.length = span.size := List.length_range'

theorem Span.nodup_indices (span : Span) : span.indices.Nodup := List.nodup_range'

namespace Assigned

variable {s : Sentence} {cursor : Nat} {gap : Bound} {guard : Option Element} {before : List Taken}

/-- No token is taken twice. -/
theorem nodup_groupedIndices (h : Assigned s cursor gap guard before taken) (hcursor : cursor ≤ s.size) :
    (groupedIndices taken).Nodup := by
  refine List.nodup_flatMap.mpr ⟨fun t _ => t.2.nodup_indices, ?_⟩
  refine ((h.pairwise hcursor).sublist List.filter_sublist).imp fun hbehind i hi hi' => ?_
  have hfirst := (Span.mem_indices.mp hi).2
  have hsecond := (Span.mem_indices.mp hi').1
  omega

theorem lt_size_of_isUnified (h : Assigned s cursor gap guard before taken) (hcursor : cursor ≤ s.size) {i : Nat}
    (hi : isUnified taken i = true) : i < s.size := by
  obtain ⟨t, ht, hboth⟩ := List.any_eq_true.mp hi
  obtain ⟨-, hcontains⟩ := Bool.and_eq_true_iff.mp hboth
  exact Nat.lt_of_lt_of_le (Span.contains_iff.mp hcontains).2 (h.liesBetween hcursor t ht).stop_le

/-- The tokens of groups that meet a condition, counted in any list of all tokens that meet it. -/
theorem countP_groupedIndices (h : Assigned s cursor gap guard before taken) (hcursor : cursor ≤ s.size)
    {f : Nat → Bool} {indices : List Nat} (hnodup : indices.Nodup)
    (hmem : ∀ i, isUnified taken i = true → (i ∈ indices ↔ f i = true)) :
    (groupedIndices taken).countP f = indices.countP (isUnified taken) := by
  rw [List.countP_eq_length_filter, List.countP_eq_length_filter]
  refine List.Perm.length_eq ((List.perm_ext_iff_of_nodup ?_ (hnodup.filter _)).mpr fun i => ?_)
  · exact (h.nodup_groupedIndices hcursor).filter _
  · rw [List.mem_filter, List.mem_filter, mem_groupedIndices]
    exact ⟨fun ⟨hi, hf⟩ => ⟨(hmem i hi).mpr hf, hi⟩, fun ⟨hin, hi⟩ => ⟨hi, (hmem i hi).mp hin⟩⟩

end Assigned

namespace Point

/-- The tokens counted and those of the open group are the ones that elements of groups have taken. A group is open only
while the next element is in a group. -/
structure Accounts (p : Point) (elements : List Element) : Prop where
  total : p.unified + p.agreement.tokens = (groupedIndices p.taken).length
  closed : (∀ e, elements.head? = some e → e.isGrouped = false) → p.agreement.tokens = 0

theorem accounts_start (i : Nat) (elements : List Element) : (start i).Accounts elements := ⟨rfl, fun _ => rfl⟩

variable {table : FeatureTable} {s : Sentence} {p q : Point} {e : Element} {rest : List Element}

/-- Whether the group goes on, ends or there is none, each token that an element takes is accounted for. -/
theorem Accounts.settle? {span : Span} {gap : Bound} {guard : Option Element} (h : p.Accounts (e :: rest))
    (hgroups : Search.Grouped (e :: rest)) (hlength : (s.slice span).length = span.size)
    (hq : (p.advance e span gap guard).settle? e (agreementAfter table s e span p.agreement) = some q) :
    q.Accounts rest := by
  have htotal := h.total
  have htaken : groupedIndices (p.taken ++ [(e, span)]) =
      groupedIndices p.taken ++ if e.isGrouped then span.indices else [] := by
    rw [groupedIndices_append, groupedIndices_singleton]
  unfold Point.settle? at hq
  cases hslot : e.agreement with
  | none =>
    have hplain : e.isGrouped = false := by rw [Element.isGrouped, hslot]; rfl
    have hclosed : p.agreement.tokens = 0 := h.closed fun e' he' => by
      rw [← Option.some_inj.mp he']
      exact hplain
    rw [hslot, Option.some_inj] at hq
    subst hq
    refine ⟨?_, fun _ => hclosed⟩
    rw [advance, htaken, hplain, if_neg Bool.false_ne_true, List.append_nil]
    exact htotal
  | some slot =>
    have hgrouped : e.isGrouped = true := by rw [Element.isGrouped, hslot]; rfl
    have hafter : (agreementAfter table s e span p.agreement).tokens = p.agreement.tokens + span.size := by
      rw [agreementAfter, hslot]
      exact (Agreement.tokens_addAll table slot.features p.agreement (s.slice span)).trans (by rw [hlength])
    have hcount : (groupedIndices (p.taken ++ [(e, span)])).length =
        p.unified + (agreementAfter table s e span p.agreement).tokens := by
      rw [htaken, if_pos hgrouped, List.length_append, Span.length_indices, ← htotal, hafter, Nat.add_assoc]
    have hhead := hgroups.1 slot hslot
    simp only [hslot] at hq
    cases hlast : slot.last with
    | false =>
      rw [hlast, Bool.not_false, if_pos rfl, Option.some_inj] at hq
      subst hq
      rw [hlast, if_neg Bool.false_ne_true] at hhead
      obtain ⟨e', slot', hnext, hslot', -⟩ := hhead
      refine ⟨hcount.symm, fun hnone => ?_⟩
      have hopen := hnone e' hnext
      rw [Element.isGrouped, hslot'] at hopen
      cases hopen
    | true =>
      rw [hlast, Bool.not_true, if_neg Bool.false_ne_true] at hq
      split at hq
      · rw [Option.some_inj] at hq
        subst hq
        exact ⟨hcount.symm, fun _ => rfl⟩
      · cases hq

theorem Accounts.of_mem_successors (h : p.Accounts (e :: rest)) (hgroups : Search.Grouped (e :: rest))
    (hq : q ∈ p.successors table s e) : q.Accounts rest := by
  rw [successors, List.mem_append, List.mem_flatMap] at hq
  rcases hq with ⟨i, -, hq⟩ | hq
  · obtain ⟨n, ⟨-, -, hsize, -⟩, -, hq⟩ := (mem_takeFrom p q table s e i).mp hq
    exact h.settle? hgroups (by rw [Sentence.length_slice (by omega), Span.size_mk_add]) hq
  · obtain ⟨-, hq⟩ := (mem_leaveOut p q table s e).mp hq
    exact h.settle? hgroups (by rw [Sentence.slice, Span.size_empty, List.take_zero]; rfl) hq

/-- At the end no group is open, so all tokens of groups have been counted. -/
theorem Accounts.unified_of_mem_completions {elements : List Element} (h : p.Accounts elements)
    (hgroups : Search.Grouped elements) (hq : q ∈ Search.completions table s elements p) :
    q.unified = (groupedIndices q.taken).length := by
  induction elements generalizing p with
  | nil =>
    rw [Search.completions] at hq
    split at hq
    · obtain rfl := List.mem_singleton.mp hq
      have hclosed : q.agreement.tokens = 0 := by
        refine h.closed fun e he => ?_
        cases he
      have htotal := h.total
      omega
    · exact absurd hq List.not_mem_nil
  | cons e rest ih =>
    obtain ⟨p', hp', hq⟩ := List.mem_flatMap.mp hq
    exact ih (h.of_mem_successors hgroups hp') hgroups.2 hq

end Point

/-- The counts of a match are those of the tokens that elements of groups took, and the action that looks at agreement
succeeds if these are all tokens of the marker, those in gaps included. -/
structure Match.CountsGroups (m : Match) (s : Sentence) (taken : List Taken) : Prop where
  unifiedTokens : m.unifiedTokens = (List.range s.size).countP (isUnified taken)
  markerUnifiedTokens : m.markerUnifiedTokens = m.range.indices.countP (isUnified taken)
  marker_le : m.markerUnifiedTokens ≤ m.unifiedTokens
  unify : ∀ s' : Sentence, (∃ s'', (Action.unify.apply m).run s' = .ok () s'') ↔
    ∀ i ∈ m.range.indices, isUnified taken i = true

theorem Action.run_unify_eq_ok_iff (m : Match) (s : Sentence) :
    (∃ s', (unify.apply m).run s = .ok () s') ↔ m.markerUnifiedTokens = m.range.size := by
  constructor
  · rintro ⟨s', hdone⟩
    by_contra hnot
    obtain ⟨expected, found, herror⟩ := run_apply_of_not_fits (a := unify) hnot s
    rw [herror] at hdone
    cases hdone
  · exact fun hfits => ⟨_, run_apply_of_fits (a := unify) hfits s⟩

namespace Rule

variable {r : Rule} {s : Sentence} {limit : Option Nat}

/-- A match counts the tokens that elements of groups took, in the whole match and in its marker. -/
theorem findMatches_countsGroups (hr : r.IsCompiled) {ms : List Match} (h : r.findMatches s limit = .ok ms) {m : Match}
    (hm : m ∈ ms) : ∃ i p steps, r.matchAt s none i 0 = .ok (some p, steps) ∧ m = Match.ofPoint r s p ∧
      p.taken.map (·.1) = r.elements ∧ m.CountsGroups s p.taken := by
  obtain ⟨i, p, steps, hi, hp, hmatch, rfl, helements, hassigned⟩ := exists_assigned_of_mem_findMatches h hm
  have hcursor : i ≤ s.size := Nat.le_of_lt hi
  have hunified : (Match.ofPoint r s p).unifiedTokens = (groupedIndices p.taken).length :=
    (Point.accounts_start i r.elements).unified_of_mem_completions hr.grouped hp
  have hwhole : (groupedIndices p.taken).length = (List.range s.size).countP (isUnified p.taken) := by
    rw [← List.countP_true]
    refine hassigned.countP_groupedIndices hcursor List.nodup_range fun j hj => ?_
    exact iff_of_true (List.mem_range.mpr (hassigned.lt_size_of_isUnified hcursor hj)) rfl
  have hmarker : (Match.ofPoint r s p).markerUnifiedTokens =
      (Match.ofPoint r s p).range.indices.countP (isUnified p.taken) :=
    hassigned.countP_groupedIndices hcursor (Span.nodup_indices _) fun j _ =>
      Span.mem_indices.trans Span.contains_iff.symm
  refine ⟨i, p, steps, hmatch, rfl, helements, hunified.trans hwhole, hmarker, ?_, fun s' => ?_⟩
  · rw [hunified]
    exact List.countP_le_length
  · rw [Action.run_unify_eq_ok_iff, hmarker, ← Span.length_indices]
    exact List.countP_eq_length

/-- Part of a group is in the marker, with a gap, and its last element may be left out. -/
def groupAroundMarker : String :=
  "unification f \x7b a = pos=\"A\"; \x7d rule R \x7b pattern \x7b unify(f) \x7b [pos=\"A\"] " ++
    "marker \x7b [pos=\"A\", skip=1] [pos=\"A\"] \x7d [pos=\"B\", min=0] \x7d \x7d message \"m\"; \x7d"

/-- The token in the gap is not one of the group, so the action on agreement fails. -/
theorem findMatches_groupAroundMarker :
    ∃ (r : Rule) (s : Sentence) (ms : List Match) (m : Match), r.IsCompiled ∧ r.findMatches s none = .ok ms ∧ m ∈ ms ∧
      (m.unifiedTokens, m.markerUnifiedTokens, m.range) = (3, 2, ⟨1, 4⟩) ∧
      ∃ i p steps, r.matchAt s none i 0 = .ok (some p, steps) ∧ m = Match.ofPoint r s p ∧
        p.taken.map (·.1) = r.elements ∧ m.CountsGroups s p.taken := by
  let tagged (tag : String) : Token := .new "w" [.of "w" tag]
  have hrun : ofFirstMatch? (fun _ m => (m.unifiedTokens, m.markerUnifiedTokens, m.range)) groupAroundMarker
      (.ofTokens [tagged "A", tagged "A", tagged "X", tagged "A"]) = some (3, 2, ⟨1, 4⟩) := by decide +kernel
  obtain ⟨file, context, d, r, ms, m, hread, hcontext, hcomes, hms, hm, hcounts⟩ := exists_of_ofFirstMatch? hrun
  exact ⟨r, _, ms, m, hcomes.isCompiled, hms, hm, hcounts, findMatches_countsGroups hcomes.isCompiled hms hm⟩

end Rule

end GrammarCheck
