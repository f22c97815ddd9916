import GrammarCheck.Check.Example
import GrammarCheck.Proofs.Contiguous
import GrammarCheck.Proofs.Success
import Mathlib.Data.List.SplitBy

/-! Definitions that share their ids. Compiled rules are put together by the ids of neighbours, so the rules of a
definition stand by themselves only if the definitions next to it have other ids. Of definitions with the same ids in a
row, the first one gives the examples for the rules of all of them. -/

namespace GrammarCheck

/-- A row of definitions with the same ids. The definitions before and behind it have other ids. -/
structure IsRow {δ : Type} (ids : δ → String × String) (before : List δ) (first : δ) (same after : List δ) : Prop where
  same : ∀ d ∈ same, ids d = ids first
  before : ∀ d ∈ before.getLast?, ids d ≠ ids first
  after : ∀ d ∈ after.head?, ids d ≠ ids first

/-- What the first definition of each row gives as examples holds of the rules of the row. -/
def FirstExamplesHold {δ α ε : Type} (ids : δ → String × String) (compile : δ → Except CompileError (List α))
    (examples : δ → List ε) (Holds : List α → ε → Prop) (definitions : List δ) : Prop :=
  ∀ before d same after, definitions = before ++ (d :: same) ++ after → IsRow ids before d same after →
    ∃ rules, List.Forall₂ (fun d rs => compile d = .ok rs) (d :: same) rules ∧ ∀ e ∈ examples d, Holds rules.flatten e

section Rows

variable {α δ : Type} (ids : α → String × String) (idsOf : δ → String × String)

/-- There are rules for the definition, and they have its ids. -/
def HasRules (d : δ) (rules : List α) : Prop := rules ≠ [] ∧ ∀ r ∈ rules, ids r = idsOf d

variable {ids idsOf} {definitions : List δ} {compiled : List (List α)}

theorem head?_flatten (h : List.Forall₂ (HasRules ids idsOf) definitions compiled) :
    compiled.flatten.head?.map ids = definitions.head?.map idsOf := by
  cases h with
  | nil => rfl
  | @cons d rules _ _ hfirst _ =>
    obtain ⟨r, rest, rfl⟩ := List.exists_cons_of_ne_nil hfirst.1
    exact congrArg some (hfirst.2 r List.mem_cons_self)

theorem getLast?_flatten (h : List.Forall₂ (HasRules ids idsOf) definitions compiled) :
    compiled.flatten.getLast?.map ids = definitions.getLast?.map idsOf := by
  induction h with
  | nil => rfl
  | @cons d rules definitions compiled hfirst hrest ih =>
    rw [List.flatten_cons, List.getLast?_append, List.getLast?_cons]
    cases hlast : definitions.getLast? with
    | none =>
      -- The definition is the last one, and so is the last of its rules.
      rw [hlast, Option.map_none, Option.map_eq_none_iff] at ih
      have hown : rules.getLast? = some (rules.getLast hfirst.1) := List.getLast?_eq_some_getLast hfirst.1
      rw [ih, Option.none_or, hown]
      exact congrArg some (hfirst.2 _ (List.getLast_mem hfirst.1))
    | some last =>
      rw [hlast] at ih
      obtain ⟨r, hr, hids⟩ := Option.map_eq_some_iff.mp ih
      rw [hr]
      exact congrArg some hids

theorem forall_mem_flatten {i : String × String} (h : List.Forall₂ (HasRules ids idsOf) definitions compiled)
    (hsame : ∀ d ∈ definitions, idsOf d = i) : ∀ r ∈ compiled.flatten, ids r = i := by
  induction h with
  | nil => exact List.forall_mem_nil _
  | cons hfirst _ ih =>
    obtain ⟨hown, hothers⟩ := List.forall_mem_cons.mp hsame
    rw [List.flatten_cons]
    exact List.forall_mem_append.mpr ⟨fun r hr => (hfirst.2 r hr).trans hown, ih hothers⟩

theorem exists_definition (h : List.Forall₂ (HasRules ids idsOf) definitions compiled) :
    ∀ r ∈ compiled.flatten, ∃ d ∈ definitions, ids r = idsOf d := by
  intro r hr
  obtain ⟨rules, hrules, hr⟩ := List.mem_flatten.mp hr
  obtain ⟨d, hd, hown⟩ := Success.exists_of_mem_right h hrules
  exact ⟨d, hd, hown.2 r hr⟩

theorem siblings_of_same {rules : List α} {i : String × String} (hne : rules ≠ []) (hsame : ∀ r ∈ rules, ids r = i) :
    Example.siblings ids rules = [rules] := by
  refine List.splitBy_of_isChain hne (List.pairwise_of_forall_mem_list fun a ha b hb => ?_).isChain
  rw [beq_iff_eq, hsame a ha, hsame b hb]

/-- Where all ids differ, the rules of each definition stand by themselves. -/
theorem siblings_flatten (h : List.Forall₂ (HasRules ids idsOf) definitions compiled)
    (hnodup : (definitions.map idsOf).Nodup) : Example.siblings ids compiled.flatten = compiled := by
  induction h with
  | nil => rfl
  | @cons d rules definitions compiled hfirst hrest ih =>
    obtain ⟨hother, hnodup⟩ := List.nodup_cons.mp hnodup
    have hcut : ∀ x ∈ rules.getLast?, ∀ y ∈ compiled.flatten.head?, (ids x == ids y) = false := by
      intro x hx y hy
      obtain ⟨d', hd', hids⟩ := exists_definition hrest y (List.mem_of_mem_head? hy)
      rw [beq_eq_false_iff_ne, hfirst.2 x (List.mem_of_getLast? hx), hids]
      exact fun heq => hother (heq ▸ List.mem_map_of_mem hd')
    have hown : Example.siblings ids rules = [rules] := siblings_of_same hfirst.1 hfirst.2
    unfold Example.siblings at hown ih ⊢
    rw [List.flatten_cons, List.splitBy_append hcut, hown, ih hnodup]
    rfl

/-- The rules of a definition are those with its ids if no other definition has them. -/
theorem filter_flatten {before after : List δ} {d : δ} {front back : List (List α)} {rules : List α}
    (hfront : List.Forall₂ (HasRules ids idsOf) before front) (hown : HasRules ids idsOf d rules)
    (hback : List.Forall₂ (HasRules ids idsOf) after back) (hnodup : ((before ++ d :: after).map idsOf).Nodup) :
    (front ++ rules :: back).flatten.filter (ids · == idsOf d) = rules := by
  have hfirst : ∀ d' ∈ before, idsOf d' ≠ idsOf d := by
    rw [List.map_append, List.map_cons] at hnodup
    exact fun d' hd' => (List.nodup_append.mp hnodup).2.2 _ (List.mem_map_of_mem hd') _ List.mem_cons_self
  have hlater : ∀ d' ∈ after, idsOf d' ≠ idsOf d := by
    rw [List.map_append, List.map_cons] at hnodup
    have hout := (List.nodup_cons.mp (List.nodup_append.mp hnodup).2.1).1
    exact fun d' hd' heq => hout (heq ▸ List.mem_map_of_mem hd')
  have hnone {definitions : List δ} {compiled : List (List α)}
      (h : List.Forall₂ (HasRules ids idsOf) definitions compiled) (hother : ∀ d' ∈ definitions, idsOf d' ≠ idsOf d) :
      compiled.flatten.filter (ids · == idsOf d) = [] := by
    refine List.filter_eq_nil_iff.mpr fun r hr => ?_
    obtain ⟨d', hd', hids⟩ := exists_definition h r hr
    rw [beq_iff_eq, hids]
    exact hother d' hd'
  have hall : rules.filter (ids · == idsOf d) = rules :=
    List.filter_eq_self.mpr fun r hr => beq_iff_eq.mpr (hown.2 r hr)
  rw [List.flatten_append, List.flatten_cons, List.filter_append, List.filter_append, hnone hfront hfirst, hall,
    hnone hback hlater, List.nil_append, List.append_nil]

/-- The rules of a row are put together, and no others with them. -/
theorem flatten_mem_siblings {before same after : List δ} {first : δ} (hfirst : IsRow idsOf before first same after)
    {front middle back : List (List α)} (hfront : List.Forall₂ (HasRules ids idsOf) before front)
    (hmiddle : List.Forall₂ (HasRules ids idsOf) (first :: same) middle)
    (hback : List.Forall₂ (HasRules ids idsOf) after back) :
    middle.flatten ∈ Example.siblings ids (front.flatten ++ (middle.flatten ++ back.flatten)) := by
  have hsame : ∀ r ∈ middle.flatten, ids r = idsOf first :=
    forall_mem_flatten hmiddle (List.forall_mem_cons.mpr ⟨rfl, hfirst.same⟩)
  have hhead : middle.flatten.head?.map ids = some (idsOf first) := head?_flatten hmiddle
  have hne : middle.flatten ≠ [] := by
    intro hnil
    rw [hnil] at hhead
    exact nomatch hhead
  have hrow : Example.siblings ids middle.flatten = [middle.flatten] := siblings_of_same hne hsame
  have hbefore : ∀ x ∈ front.flatten.getLast?, ∀ y ∈ (middle.flatten ++ back.flatten).head?,
      (ids x == ids y) = false := by
    intro x hx y hy
    rw [List.head?_append_of_ne_nil _ hne] at hy
    have hlast := getLast?_flatten hfront
    rw [Option.mem_def.mp hx, Option.map_some] at hlast
    obtain ⟨d, hd, hids⟩ := Option.map_eq_some_iff.mp hlast.symm
    rw [beq_eq_false_iff_ne, ← hids, hsame y (List.mem_of_mem_head? hy)]
    exact hfirst.before d hd
  have hafter : ∀ x ∈ middle.flatten.getLast?, ∀ y ∈ back.flatten.head?, (ids x == ids y) = false := by
    intro x hx y hy
    have hnext := head?_flatten hback
    rw [Option.mem_def.mp hy, Option.map_some] at hnext
    obtain ⟨d, hd, hids⟩ := Option.map_eq_some_iff.mp hnext.symm
    rw [beq_eq_false_iff_ne, ← hids, hsame x (List.mem_of_getLast? hx)]
    exact (hfirst.after d hd).symm
  -- The list is cut in front of the row and behind it, and nowhere in it.
  unfold Example.siblings at hrow ⊢
  rw [List.splitBy_append hbefore, List.splitBy_append hafter, hrow]
  exact List.mem_append_right _ List.mem_cons_self

/-- Where the examples of the first rule hold of all that are put together, those of the first definition hold of the
rules of its row. -/
theorem firstExamplesHold {ε : Type} (ids : α → String × String) (examplesOf : α → List ε)
    {compile : δ → Except CompileError (List α)} {examples : δ → List ε} {Holds : List α → ε → Prop}
    (hcompiled : List.Forall₂ (fun d rs => compile d = .ok rs) definitions compiled)
    (hrules : ∀ d ∈ definitions, ∀ rs, compile d = .ok rs → HasRules ids idsOf d rs)
    (hexamples : ∀ d rs, compile d = .ok rs → ∀ r ∈ rs, examplesOf r = examples d)
    (hholds : ∀ first rest, first :: rest ∈ Example.siblings ids compiled.flatten →
      ∀ e ∈ examplesOf first, Holds (first :: rest) e) :
    FirstExamplesHold idsOf compile examples Holds definitions := by
  rintro before d same after rfl hrow
  have hboth : List.Forall₂ (fun d rs => compile d = .ok rs ∧ HasRules ids idsOf d rs) (before ++ (d :: same) ++ after)
      compiled :=
    ((List.forall₂_and_left _ _).mpr ⟨hrules, hcompiled⟩).imp fun d rs ⟨hall, hrs⟩ => ⟨hrs, hall rs hrs⟩
  obtain ⟨front, back, rfl, hfront, hback⟩ := Contiguous.exists_append_of_forall₂ hboth
  obtain ⟨front, middle, rfl, hfront, hmiddle⟩ := Contiguous.exists_append_of_forall₂ hfront
  refine ⟨middle, hmiddle.imp fun _ _ h => h.1, fun e he => ?_⟩
  have hmem := flatten_mem_siblings hrow (hfront.imp fun _ _ h => h.2) (hmiddle.imp fun _ _ h => h.2)
    (hback.imp fun _ _ h => h.2)
  rw [← List.append_assoc, ← List.flatten_append, ← List.flatten_append] at hmem
  cases hmiddle with
  | @cons _ rules _ others hfirst hothers =>
    obtain ⟨r, rest, rfl⟩ := List.exists_cons_of_ne_nil hfirst.2.1
    have hown : e ∈ examplesOf r := by
      rw [hexamples d _ hfirst.1 r List.mem_cons_self]
      exact he
    exact hholds r (rest ++ others.flatten) hmem e hown

end Rows

end GrammarCheck
