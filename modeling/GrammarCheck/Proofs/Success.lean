import Mathlib.Data.List.Forall2

/-! What it takes for a computation that may fail to succeed, and where one that fails does so. -/

namespace GrammarCheck.Success

variable {ε ε' σ α β : Type}

theorem bind_eq_ok {x : Except ε α} {f : α → Except ε β} {b : β} :
    (x >>= f) = .ok b ↔ ∃ a, x = .ok a ∧ f a = .ok b := by
  cases x <;> simp [bind, Except.bind]

theorem pure_eq_ok {a b : α} : (pure a : Except ε α) = .ok b ↔ a = b := by
  simp [pure, Except.pure]

theorem mapError_eq_ok {f : ε → ε'} {x : Except ε α} {a : α} : x.mapError f = .ok a ↔ x = .ok a := by
  cases x <;> simp [Except.mapError]

theorem toOption_eq_some {x : Except ε α} {a : α} : x.toOption = some a ↔ x = .ok a := by
  cases x <;> simp [Except.toOption]

theorem forall₂_of_mapM_eq_ok {f : α → Except ε β} {l : List α} {l' : List β} (h : l.mapM f = .ok l') :
    List.Forall₂ (fun a b => f a = .ok b) l l' := by
  induction l generalizing l' with
  | nil =>
    rw [List.mapM_nil, pure_eq_ok] at h
    exact h ▸ .nil
  | cons a l ih =>
    rw [List.mapM_cons, bind_eq_ok] at h
    obtain ⟨b, hb, h⟩ := h
    rw [bind_eq_ok] at h
    obtain ⟨rest, hrest, h⟩ := h
    rw [pure_eq_ok] at h
    exact h ▸ .cons hb (ih hrest)

theorem exists_of_mem_right {R : α → β → Prop} {l : List α} {l' : List β} (h : List.Forall₂ R l l') {b : β}
    (hb : b ∈ l') : ∃ a ∈ l, R a b := by
  induction h with
  | nil => exact absurd hb List.not_mem_nil
  | @cons a b' _ _ hfirst _ ih =>
    rcases List.mem_cons.mp hb with rfl | hb
    · exact ⟨a, List.mem_cons_self, hfirst⟩
    · obtain ⟨a', ha', hown⟩ := ih hb
      exact ⟨a', List.mem_cons_of_mem _ ha', hown⟩

theorem exists_of_mem_left {R : α → β → Prop} {l : List α} {l' : List β} (h : List.Forall₂ R l l') {a : α}
    (ha : a ∈ l) : ∃ b ∈ l', R a b :=
  exists_of_mem_right h.flip ha

theorem exists_of_mem_of_mapM_eq_ok {f : α → Except ε β} {l : List α} {l' : List β} (h : l.mapM f = .ok l') {b : β}
    (hb : b ∈ l') : ∃ a ∈ l, f a = .ok b :=
  exists_of_mem_right (forall₂_of_mapM_eq_ok h) hb

theorem mapM_singleton_eq_ok {f : α → Except ε β} {a : α} {b : β} (h : f a = .ok b) : [a].mapM f = .ok [b] := by
  rw [List.mapM_cons, List.mapM_nil]
  exact bind_eq_ok.mpr ⟨b, h, rfl⟩

theorem forM_eq_ok {f : α → Except ε Unit} {l : List α} : l.forM f = .ok () ↔ ∀ a ∈ l, f a = .ok () := by
  induction l with
  | nil => exact ⟨fun _ => List.forall_mem_nil _, fun _ => rfl⟩
  | cons a l ih =>
    have hcons : (a :: l).forM f = (f a >>= fun _ => l.forM f) := rfl
    rw [hcons, bind_eq_ok, List.forall_mem_cons, ← ih]
    exact ⟨fun ⟨_, ha, hl⟩ => ⟨ha, hl⟩, fun ⟨ha, hl⟩ => ⟨_, ha, hl⟩⟩

/-- What a step of a fold keeps holds of its result. -/
theorem of_foldlM_eq_ok (P : β → Prop) {f : β → α → Except ε β} {l : List α} {b b' : β} (h : l.foldlM f b = .ok b')
    (hb : P b) (hstep : ∀ b a b', a ∈ l → P b → f b a = .ok b' → P b') : P b' := by
  induction l generalizing b with
  | nil =>
    rw [List.foldlM_nil, pure_eq_ok] at h
    exact h ▸ hb
  | cons a l ih =>
    rw [List.foldlM_cons, bind_eq_ok] at h
    obtain ⟨b₁, hfirst, hrest⟩ := h
    have hb₁ : P b₁ := hstep b a b₁ List.mem_cons_self hb hfirst
    exact ih hrest hb₁ fun b a b' ha => hstep b a b' (List.mem_cons_of_mem _ ha)

theorem foldlM_append_eq_ok {f : β → α → Except ε β} {front back : List α} {b b' : β} :
    (front ++ back).foldlM f b = .ok b' ↔ ∃ b₁, front.foldlM f b = .ok b₁ ∧ back.foldlM f b₁ = .ok b' := by
  rw [List.foldlM_append, bind_eq_ok]

/-- A fold that succeeds has taken each of its steps. -/
theorem exists_step_of_foldlM_eq_ok {f : β → α → Except ε β} {l : List α} {b b' : β} (h : l.foldlM f b = .ok b') {a : α}
    (ha : a ∈ l) : ∃ b₁ b₂, f b₁ a = .ok b₂ := by
  obtain ⟨front, back, rfl⟩ := List.append_of_mem ha
  obtain ⟨b₁, -, hback⟩ := foldlM_append_eq_ok.mp h
  rw [List.foldlM_cons, bind_eq_ok] at hback
  obtain ⟨b₂, hstep, -⟩ := hback
  exact ⟨b₁, b₂, hstep⟩

/-- What a fold has in a place was put there in some step, if the place was empty at first. -/
theorem exists_source_of_foldlM_eq_ok {γ : Type} {f : β → α → Except ε β} {l : List α} {b b' : β}
    (h : l.foldlM f b = .ok b') (place : β → Option γ) (R : α → γ → Prop) (hb : place b = none)
    (hstep : ∀ b a b', f b a = .ok b' → place b' = place b ∨ ∃ c, R a c ∧ place b' = some c) {c : γ}
    (hc : place b' = some c) : ∃ a ∈ l, R a c := by
  refine of_foldlM_eq_ok (fun b => ∀ c, place b = some c → ∃ a ∈ l, R a c) h (fun c hc => nomatch hb.symm.trans hc)
    (fun b a b' ha hkept hown c hc => ?_) c hc
  rcases hstep b a b' hown with hsame | ⟨c', hR, hnew⟩
  · exact hkept c (hsame ▸ hc)
  · exact ⟨a, ha, Option.some_inj.mp (hnew.symm.trans hc) ▸ hR⟩

/-- A place that the steps write to holds what was written last. -/
theorem getLast?_of_foldlM_eq_ok {γ : Type} {f : β → α → Except ε β} (place : β → Option γ) (write : α → Option γ)
    (hstep : ∀ b a b', f b a = .ok b' → place b' = (write a).or (place b)) {l : List α} {b b' : β}
    (h : l.foldlM f b = .ok b') : place b' = (l.filterMap write).getLast?.or (place b) := by
  induction l generalizing b with
  | nil =>
    rw [List.foldlM_nil, pure_eq_ok] at h
    exact h ▸ rfl
  | cons a l ih =>
    rw [List.foldlM_cons, bind_eq_ok] at h
    obtain ⟨b₁, hfirst, hrest⟩ := h
    rw [ih hrest, hstep b a b₁ hfirst, ← Option.or_assoc]
    cases hwrite : write a with
    | none => rw [List.filterMap_cons_none hwrite, Option.or_none]
    | some c => rw [List.filterMap_cons_some hwrite, List.getLast?_cons, Option.or_some, Option.some_or]

/-- A list that the steps append to grows by what each of them appends. -/
theorem forall₂_of_foldlM_eq_ok {γ δ : Type} {f : β → α → Except ε β} (place : β → List γ) (given : α → Option δ)
    (R : δ → γ → Prop)
    (hstep : ∀ b a b', f b a = .ok b' → ∃ new, place b' = place b ++ new ∧ List.Forall₂ R (given a).toList new)
    {l : List α} {b b' : β} (h : l.foldlM f b = .ok b') :
    ∃ new, place b' = place b ++ new ∧ List.Forall₂ R (l.filterMap given) new := by
  induction l generalizing b with
  | nil =>
    rw [List.foldlM_nil, pure_eq_ok] at h
    exact ⟨[], by rw [h, List.append_nil], .nil⟩
  | cons a l ih =>
    rw [List.foldlM_cons, bind_eq_ok] at h
    obtain ⟨b₁, hfirst, hrest⟩ := h
    obtain ⟨first, hplace, hown⟩ := hstep b a b₁ hfirst
    obtain ⟨rest, hplace', hrest⟩ := ih hrest
    refine ⟨first ++ rest, by rw [hplace', hplace, List.append_assoc], ?_⟩
    cases hgiven : given a with
    | none =>
      rw [List.filterMap_cons_none hgiven]
      rw [hgiven] at hown
      cases hown
      exact hrest
    | some d =>
      rw [List.filterMap_cons_some hgiven]
      rw [hgiven] at hown
      exact List.rel_append hown hrest

/-- A computation with a state succeeds step by step. -/
theorem run_bind_eq_ok {x : StateT σ (Except ε) α} {f : α → StateT σ (Except ε) β} {s : σ} {outcome : β × σ} :
    (x >>= f) s = .ok outcome ↔ ∃ a s', x s = .ok (a, s') ∧ f a s' = .ok outcome := by
  show (x s >>= fun p => f p.1 p.2) = .ok outcome ↔ _
  rw [bind_eq_ok]
  exact ⟨fun ⟨p, hx, hf⟩ => ⟨p.1, p.2, hx, hf⟩, fun ⟨a, s', hx, hf⟩ => ⟨(a, s'), hx, hf⟩⟩

theorem run_pure_eq_ok {a : α} {s : σ} {outcome : α × σ} :
    (pure a : StateT σ (Except ε) α) s = .ok outcome ↔ (a, s) = outcome := pure_eq_ok

theorem bind_eq_error {x : Except ε α} {f : α → Except ε β} {e : ε} :
    (x >>= f) = .error e ↔ x = .error e ∨ ∃ a, x = .ok a ∧ f a = .error e := by
  cases x <;> simp [bind, Except.bind]

theorem mapError_eq_error {f : ε → ε'} {x : Except ε α} {e' : ε'} :
    x.mapError f = .error e' ↔ ∃ e, x = .error e ∧ f e = e' := by
  cases x <;> simp [Except.mapError]

theorem exists_of_mapM_eq_error {f : α → Except ε β} {l : List α} {e : ε} (h : l.mapM f = .error e) :
    ∃ a ∈ l, f a = .error e := by
  induction l with
  | nil => cases h
  | cons a l ih =>
    rw [List.mapM_cons, bind_eq_error] at h
    rcases h with hfirst | ⟨b, -, h⟩
    · exact ⟨a, List.mem_cons_self, hfirst⟩
    · rcases bind_eq_error.mp h with hrest | ⟨_, -, hpure⟩
      · obtain ⟨a', ha', herror⟩ := ih hrest
        exact ⟨a', List.mem_cons_of_mem a ha', herror⟩
      · cases hpure

/-- A computation with a state fails at its first step that fails. -/
theorem run_bind_eq_error {x : StateT σ (Except ε) α} {f : α → StateT σ (Except ε) β} {s : σ} {e : ε} :
    (x >>= f) s = .error e ↔ x s = .error e ∨ ∃ a s', x s = .ok (a, s') ∧ f a s' = .error e := by
  show (x s >>= fun p => f p.1 p.2) = .error e ↔ _
  rw [bind_eq_error]
  exact or_congr_right ⟨fun ⟨p, hx, hf⟩ => ⟨p.1, p.2, hx, hf⟩, fun ⟨a, s', hx, hf⟩ => ⟨(a, s'), hx, hf⟩⟩

end GrammarCheck.Success
