import GrammarCheck.Element
import Mathlib.Data.List.Basic

/-! Agreement said without bits: for each feature there is a type that all tokens of a group can have. The types that
are kept token by token say the same, and further tokens only take types away. -/

namespace GrammarCheck

/-- Some declared type of the feature in a place of the table is one that all tokens can have. -/
def FeatureTable.Shares (table : FeatureTable) (tokens : List Token) (i : Nat) : Prop :=
  ∃ f, table.features[i]? = some f ∧ ∃ type ∈ f.types, ∀ t ∈ tokens, type.2.holds t none = true

/-- The verdict on a whole group of tokens. A group without tokens agrees. -/
def AgreementSlot.Accepts (slot : AgreementSlot) (table : FeatureTable) (tokens : List Token) : Prop :=
  (tokens = [] ∨ ∀ i ∈ slot.features, table.Shares tokens i) ↔ slot.negate = false

theorem FeatureTable.Shares.of_append {table : FeatureTable} {i : Nat} {before after : List Token}
    (h : table.Shares (before ++ after) i) : table.Shares before i := by
  obtain ⟨f, hf, type, htype, hall⟩ := h
  exact ⟨f, hf, type, htype, fun t ht => hall t (List.mem_append_left after ht)⟩

theorem Feature.testBit_maskFrom (token : Token) (types : List (String × Condition)) (i k : Nat) :
    (Feature.maskFrom token i types).testBit k = true ↔
      i ≤ k ∧ ∃ type, types[k - i]? = some type ∧ type.2.holds token none = true := by
  induction types generalizing i with
  | nil => simp [Feature.maskFrom]
  | cons type rest ih =>
    obtain ⟨name, c⟩ := type
    have hbit : (if c.holds token none then 1 <<< i else 0).testBit k = true ↔
        i = k ∧ c.holds token none = true := by
      split
      · rename_i hc
        simp [Nat.one_shiftLeft, Nat.testBit_two_pow, hc]
      · rename_i hc
        simp [hc]
    rw [Feature.maskFrom, Nat.testBit_or, Bool.or_eq_true, hbit, ih]
    constructor
    · rintro (⟨rfl, hc⟩ | ⟨hle, found⟩)
      · exact ⟨Nat.le_refl i, (name, c), by simp, hc⟩
      · refine ⟨by omega, ?_⟩
        rwa [show k - i = (k - (i + 1)) + 1 by omega, List.getElem?_cons_succ]
    · rintro ⟨hle, found⟩
      rcases Nat.eq_or_lt_of_le hle with rfl | hlt
      · obtain ⟨type, htype, hc⟩ := found
        rw [Nat.sub_self, List.getElem?_cons_zero, Option.some_inj] at htype
        subst htype
        exact Or.inl ⟨rfl, hc⟩
      · rw [show k - i = (k - (i + 1)) + 1 by omega, List.getElem?_cons_succ] at found
        exact Or.inr ⟨hlt, found⟩

theorem FeatureTable.testBit_mask (table : FeatureTable) (token : Token) (i k : Nat) :
    (table.mask token i).testBit k = true ↔
      ∃ f, table.features[i]? = some f ∧ ∃ type, f.types[k]? = some type ∧ type.2.holds token none = true := by
  unfold FeatureTable.mask
  split
  · rename_i hf
    simp [hf]
  · rename_i f hf
    simp [Feature.mask, Feature.testBit_maskFrom, hf]

namespace Agreement

/-- The agreement after further tokens. -/
def addAll (a : Agreement) (table : FeatureTable) (features : List Nat) (tokens : List Token) : Agreement :=
  tokens.foldl (fun a t => a.add table features t) a

variable (table : FeatureTable) (features : List Nat)

@[simp] theorem addAll_nil (a : Agreement) : a.addAll table features [] = a := rfl

@[simp] theorem addAll_cons (a : Agreement) (t : Token) (rest : List Token) :
    a.addAll table features (t :: rest) = (a.add table features t).addAll table features rest := rfl

theorem addAll_append (a : Agreement) (before after : List Token) :
    a.addAll table features (before ++ after) = (a.addAll table features before).addAll table features after :=
  List.foldl_append ..

theorem tokens_addAll (a : Agreement) (tokens : List Token) :
    (a.addAll table features tokens).tokens = a.tokens + tokens.length := by
  induction tokens generalizing a with
  | nil => rfl
  | cons t rest ih =>
    have hadd : (a.add table features t).tokens = a.tokens + 1 := rfl
    rw [addAll_cons, ih, List.length_cons, hadd]
    omega

/-- The types of a feature that are left to all tokens, as bits. -/
def commonMask (tokens : List Token) (first : Nat) (i : Nat) : Nat :=
  tokens.foldl (fun mask t => mask &&& table.mask t i) first

theorem testBit_commonMask (tokens : List Token) (first i k : Nat) :
    (commonMask table tokens first i).testBit k = true ↔
      first.testBit k = true ∧ ∀ t ∈ tokens, (table.mask t i).testBit k = true := by
  induction tokens generalizing first with
  | nil => simp [commonMask]
  | cons t rest ih =>
    have hstep : commonMask table (t :: rest) first i = commonMask table rest (first &&& table.mask t i) i := rfl
    rw [hstep, ih, Nat.testBit_and, Bool.and_eq_true, List.forall_mem_cons, and_assoc]

theorem masks_addAll {a : Agreement} (first : Nat → Nat) (tokens : List Token) (hpos : a.tokens ≠ 0)
    (hmasks : a.masks = features.map first) :
    (a.addAll table features tokens).masks = features.map fun i => commonMask table tokens (first i) i := by
  induction tokens generalizing a first with
  | nil => exact hmasks
  | cons t rest ih =>
    have hnext : (a.add table features t).masks = features.map fun i => first i &&& table.mask t i := by
      simp [add, hpos, hmasks, List.zipWith_map, List.zipWith_self]
    rw [addAll_cons, ih (fun i => first i &&& table.mask t i) (Nat.succ_ne_zero _) hnext]
    rfl

theorem agrees_addAll_start {tokens : List Token} (hne : tokens ≠ []) :
    (start.addAll table features tokens).agrees = true ↔ ∀ i ∈ features, table.Shares tokens i := by
  obtain ⟨t, rest, rfl⟩ := List.exists_cons_of_ne_nil hne
  have hmasks : (start.addAll table features (t :: rest)).masks =
      features.map fun i => commonMask table rest (table.mask t i) i :=
    masks_addAll table features (table.mask t) rest (Nat.succ_ne_zero _) rfl
  have hbits (i : Nat) : commonMask table rest (table.mask t i) i ≠ 0 ↔ table.Shares (t :: rest) i := by
    constructor
    · intro h
      obtain ⟨k, hk⟩ := Nat.exists_testBit_of_ne_zero h
      obtain ⟨hfirst, hrest⟩ := (testBit_commonMask table rest _ i k).mp hk
      obtain ⟨f, hf, type, htype, hc⟩ := (table.testBit_mask t i k).mp hfirst
      refine ⟨f, hf, type, List.mem_of_getElem? htype, List.forall_mem_cons.mpr ⟨hc, fun u hu => ?_⟩⟩
      obtain ⟨f', hf', type', htype', hc'⟩ := (table.testBit_mask u i k).mp (hrest u hu)
      rw [hf, Option.some_inj] at hf'
      subst hf'
      rw [htype, Option.some_inj] at htype'
      exact htype' ▸ hc'
    · rintro ⟨f, hf, type, htype, hall⟩ hzero
      obtain ⟨k, hk⟩ := List.getElem?_of_mem htype
      have hbit (u : Token) (hu : u ∈ t :: rest) : (table.mask u i).testBit k = true :=
        (table.testBit_mask u i k).mpr ⟨f, hf, type, hk, hall u hu⟩
      have hcommon := (testBit_commonMask table rest (table.mask t i) i k).mpr
        ⟨hbit t List.mem_cons_self, fun u hu => hbit u (List.mem_cons_of_mem t hu)⟩
      rw [hzero, Nat.zero_testBit] at hcommon
      exact Bool.false_ne_true hcommon
  simp only [agrees, hmasks, List.all_map, List.all_eq_true, Function.comp_apply, bne_iff_ne, hbits]

theorem agrees_addAll_of_append {before after : List Token}
    (h : (start.addAll table features (before ++ after)).agrees = true) :
    (start.addAll table features before).agrees = true := by
  rcases eq_or_ne before [] with rfl | hne
  · rfl
  · have hwhole := (agrees_addAll_start table features (List.append_ne_nil_of_left_ne_nil hne after)).mp h
    exact (agrees_addAll_start table features hne).mpr fun i hi => (hwhole i hi).of_append

theorem satisfies_addAll {tokens : List Token} (hne : tokens ≠ []) (negate : Bool) :
    (start.addAll table features tokens).satisfies negate =
      ((start.addAll table features tokens).agrees != negate) := by
  have hcount : (start.addAll table features tokens).tokens ≠ 0 := by
    rw [tokens_addAll]
    exact Nat.ne_of_gt (Nat.add_pos_right _ (List.length_pos_iff.mpr hne))
  exact if_neg hcount

theorem satisfies_addAll_start (slot : AgreementSlot) (tokens : List Token) :
    (start.addAll table slot.features tokens).satisfies slot.negate = true ↔ slot.Accepts table tokens := by
  unfold AgreementSlot.Accepts
  rcases eq_or_ne tokens [] with rfl | hne
  · have hstart : start.satisfies slot.negate = !slot.negate := rfl
    simp [hstart]
  · rw [satisfies_addAll table slot.features hne, ← agrees_addAll_start table slot.features hne]
    cases slot.negate <;> simp [hne]

end Agreement

end GrammarCheck
