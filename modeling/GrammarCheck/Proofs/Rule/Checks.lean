import GrammarCheck.Disambiguation.Basic
import GrammarCheck.Proofs.Success

/-! What compiling checks: the bounds of repetitions, and that references point to positions that there are. The
references of an element point to earlier positions, and those of a text to any position of the pattern. -/

namespace GrammarCheck

open Success

/-- The element can take a token, and its references point to earlier positions. -/
structure Element.IsChecked (e : Element) : Prop where
  max_pos : e.max.admits 1 = true
  min_le_max : e.max.admits e.min = true
  references : ∀ n ∈ e.references, 1 ≤ n ∧ n ≤ e.position

/-- All references point to positions of a pattern. -/
def Template.RefersWithin (positions : Nat) (t : Template) : Prop :=
  ∀ r ∈ t.references, 1 ≤ r.position ∧ r.position ≤ positions

namespace Compile

variable {position : Nat} {patternCase : Bool}

theorem admits_of_checkBounds {t : TokenDef} (h : checkBounds t = .ok ()) :
    t.max.admits 1 = true ∧ t.max.admits t.min = true := by
  unfold checkBounds at h
  cases hmax : t.max with
  | unbounded => exact ⟨rfl, rfl⟩
  | upTo max =>
    rw [hmax] at h
    dsimp only at h
    split at h
    · exact nomatch h
    · split at h
      · exact nomatch h
      · rename_i hpos hmin
        exact ⟨decide_eq_true (Nat.pos_of_ne_zero hpos), decide_eq_true (Nat.le_of_not_lt hmin)⟩

theorem reference_of_backwardCondition {d : ConditionDef} {c : Condition}
    (h : backwardCondition d patternCase position = .ok c) : ∀ n ∈ c.reference, 1 ≤ n ∧ n ≤ position := by
  obtain ⟨c', -, h⟩ := bind_eq_ok.mp h
  intro n hn
  cases hreference : c'.reference with
  | none =>
    rw [hreference] at h
    obtain rfl := pure_eq_ok.mp h
    exact nomatch hreference.symm.trans hn
  | some m =>
    rw [hreference] at h
    dsimp only at h
    split at h
    · exact nomatch h
    · rename_i hbounds
      obtain rfl := pure_eq_ok.mp h
      obtain rfl := Option.some_inj.mp (hreference.symm.trans hn)
      omega

theorem isChecked_of_element {g : TokenGroup} {e : Element} (h : element g position patternCase = .ok e) :
    e.IsChecked := by
  obtain ⟨_, hbounds, h⟩ := bind_eq_ok.mp h
  obtain ⟨condition, hcondition, h⟩ := bind_eq_ok.mp h
  obtain ⟨exceptions, hexceptions, h⟩ := bind_eq_ok.mp h
  obtain ⟨others, hothers, h⟩ := bind_eq_ok.mp h
  obtain rfl := pure_eq_ok.mp h
  obtain ⟨hpos, hmin⟩ := admits_of_checkBounds hbounds
  refine ⟨hpos, hmin, fun n hn => ?_⟩
  obtain ⟨c, hc, hreference⟩ := List.mem_filterMap.mp hn
  -- The reference is one of the condition, of those that stand beside it, or of the exceptions.
  rcases List.mem_append.mp hc with hc | hc
  · rcases List.mem_cons.mp hc with rfl | hc
    · exact reference_of_backwardCondition hcondition n hreference
    · obtain ⟨t, -, ht⟩ := exists_of_mem_of_mapM_eq_ok hothers hc
      unfold otherCondition at ht
      split at ht
      · exact reference_of_backwardCondition ht n hreference
      · exact nomatch ht
  · obtain ⟨x, hx, rfl⟩ := List.mem_map.mp hc
    obtain ⟨d, -, hd⟩ := exists_of_mem_of_mapM_eq_ok hexceptions hx
    obtain ⟨c, hcondition, hd⟩ := bind_eq_ok.mp hd
    obtain rfl := pure_eq_ok.mp hd
    exact reference_of_backwardCondition hcondition n hreference

theorem refersWithin_of_template {source : String} {positions : Nat} {t : Template}
    (h : template source positions = .ok t) : t.RefersWithin positions := by
  obtain ⟨t', -, h⟩ := bind_eq_ok.mp h
  split at h
  · exact nomatch h
  · rename_i hnone
    obtain rfl := pure_eq_ok.mp h
    intro r hr
    have hbounds := List.find?_eq_none.mp hnone r hr
    rw [decide_eq_true_eq] at hbounds
    omega

end Compile

end GrammarCheck
