import Mathlib.Data.List.Forall2

/-! Lists in which the members with a property stand together. -/

namespace GrammarCheck

/-- The members with a property stand together. -/
def Contiguous {α : Type} (f : α → Prop) (l : List α) : Prop :=
  ∃ before between after, l = before ++ between ++ after ∧ (∀ x ∈ before, ¬f x) ∧ (∀ x ∈ between, f x) ∧
    ∀ x ∈ after, ¬f x

namespace Contiguous

variable {α β : Type} {f : α → Prop} {g : β → Prop} {l l' : List α}

theorem of_forall (h : ∀ x ∈ l, f x) : Contiguous f l := ⟨[], l, [], by simp, by simp, h, by simp⟩

theorem of_forall_not (h : ∀ x ∈ l, ¬f x) : Contiguous f l := ⟨l, [], [], by simp, h, by simp, by simp⟩

theorem singleton (f : α → Prop) (x : α) : Contiguous f [x] := by
  by_cases hx : f x
  · exact of_forall fun y hy => List.mem_singleton.mp hy ▸ hx
  · exact of_forall_not fun y hy => List.mem_singleton.mp hy ▸ hx

theorem append_left (h : Contiguous f l') (hl : ∀ x ∈ l, ¬f x) : Contiguous f (l ++ l') := by
  obtain ⟨before, between, after, rfl, hbefore, hbetween, hafter⟩ := h
  refine ⟨l ++ before, between, after, by simp only [List.append_assoc], fun x hx => ?_, hbetween, hafter⟩
  rcases List.mem_append.mp hx with hx | hx
  · exact hl x hx
  · exact hbefore x hx

theorem append_right (h : Contiguous f l) (hl' : ∀ x ∈ l', ¬f x) : Contiguous f (l ++ l') := by
  obtain ⟨before, between, after, rfl, hbefore, hbetween, hafter⟩ := h
  refine ⟨before, between, after ++ l', by simp only [List.append_assoc], hbefore, hbetween, fun x hx => ?_⟩
  rcases List.mem_append.mp hx with hx | hx
  · exact hafter x hx
  · exact hl' x hx

theorem congr {f' : α → Prop} (h : Contiguous f l) (hiff : ∀ x ∈ l, f x ↔ f' x) : Contiguous f' l := by
  obtain ⟨before, between, after, rfl, hbefore, hbetween, hafter⟩ := h
  refine ⟨before, between, after, rfl, fun x hx hf => ?_, fun x hx => ?_, fun x hx hf => ?_⟩
  · exact hbefore x hx ((hiff x (by simp [hx])).mpr hf)
  · exact (hiff x (by simp [hx])).mp (hbetween x hx)
  · exact hafter x hx ((hiff x (by simp [hx])).mpr hf)

theorem forall_of_forall₂ {R : α → β → Prop} {P : α → Prop} {Q : β → Prop} {m : List β} (h : List.Forall₂ R l m)
    (himp : ∀ a b, R a b → P a → Q b) (hP : ∀ a ∈ l, P a) : ∀ b ∈ m, Q b := by
  induction h with
  | nil => exact List.forall_mem_nil _
  | cons hR _ ih =>
    obtain ⟨hfirst, hrest⟩ := List.forall_mem_cons.mp hP
    exact List.forall_mem_cons.mpr ⟨himp _ _ hR hfirst, ih hrest⟩

theorem exists_append_of_forall₂ {R : α → β → Prop} {m : List β} (h : List.Forall₂ R (l ++ l') m) :
    ∃ front back, m = front ++ back ∧ List.Forall₂ R l front ∧ List.Forall₂ R l' back :=
  ⟨m.take l.length, m.drop l.length, (List.take_append_drop _ _).symm, (List.forall₂_take_append m l l' h.flip).flip,
    (List.forall₂_drop_append m l l' h.flip).flip⟩

/-- What is contiguous stays so if each member is replaced by one that has the property just as well. -/
theorem rel {R : α → β → Prop} {m : List β} (h : Contiguous f l) (hl : List.Forall₂ R l m)
    (hiff : ∀ a b, R a b → (f a ↔ g b)) : Contiguous g m := by
  obtain ⟨before, between, after, rfl, hbefore, hbetween, hafter⟩ := h
  obtain ⟨front, last, rfl, hfront, hlast⟩ := exists_append_of_forall₂ hl
  obtain ⟨first, middle, rfl, hfirst, hmiddle⟩ := exists_append_of_forall₂ hfront
  have hnot (a b) (hR : R a b) (ha : ¬f a) : ¬g b := mt (hiff a b hR).mpr ha
  exact ⟨first, middle, last, rfl, forall_of_forall₂ hfirst hnot hbefore,
    forall_of_forall₂ hmiddle (fun a b hR => (hiff a b hR).mp) hbetween, forall_of_forall₂ hlast hnot hafter⟩

theorem map {h : α → β} (hl : Contiguous (fun x => g (h x)) l) : Contiguous g (l.map h) := by
  have hsame : List.Forall₂ (fun a b => h a = b) l (l.map h) :=
    List.forall₂_map_right_iff.mpr (List.forall₂_same.mpr fun _ _ => rfl)
  exact hl.rel hsame fun a b hab => by rw [hab]

theorem of_cons {x : α} (h : Contiguous f (x :: l)) : Contiguous f l := by
  obtain ⟨before, between, after, hl, hbefore, hbetween, hafter⟩ := h
  cases before with
  | cons y before =>
    obtain ⟨-, rfl⟩ := List.cons.inj hl
    exact ⟨before, between, after, rfl, (List.forall_mem_cons.mp hbefore).2, hbetween, hafter⟩
  | nil =>
    cases between with
    | cons y between =>
      obtain ⟨-, rfl⟩ := List.cons.inj hl
      exact ⟨[], between, after, rfl, hbefore, (List.forall_mem_cons.mp hbetween).2, hafter⟩
    | nil =>
      cases after with
      | cons y after =>
        obtain ⟨-, rfl⟩ := List.cons.inj hl
        exact of_forall_not (List.forall_mem_cons.mp hafter).2
      | nil => exact nomatch hl

/-- Where the next member has not the property any more, no later one has it. -/
theorem forall_not_of_head {x : α} (h : Contiguous f (x :: l)) (hx : f x) (hnext : ∀ y, l.head? = some y → ¬f y) :
    ∀ y ∈ l, ¬f y := by
  obtain ⟨before, between, after, hl, hbefore, hbetween, hafter⟩ := h
  cases before with
  | cons y before =>
    obtain ⟨rfl, -⟩ := List.cons.inj hl
    exact absurd hx (hbefore x List.mem_cons_self)
  | nil =>
    cases between with
    | nil =>
      have hmem : x ∈ after := by
        rw [show after = x :: l from hl.symm]
        exact List.mem_cons_self
      exact absurd hx (hafter x hmem)
    | cons y between =>
      obtain ⟨rfl, rfl⟩ := List.cons.inj hl
      cases between with
      | nil => exact hafter
      | cons z between => exact absurd (hbetween z (by simp)) (hnext z rfl)

end Contiguous

end GrammarCheck
