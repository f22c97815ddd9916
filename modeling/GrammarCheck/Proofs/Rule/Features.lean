import GrammarCheck.Proofs.Agreement
import GrammarCheck.Proofs.Success
import GrammarCheck.Rule.Compile

/-! The features of a rule file. A feature that is compiled has at most as many types as a word has bits, so a mask is
the same in a word of that size, and tokens agree just in case they share a type as the file declares it. -/

namespace GrammarCheck

open Success

namespace Feature

/-- The places of the types that a token can have. These are the shifts that its mask is made of. -/
def shifts (f : Feature) (t : Token) : List Nat := (f.types.zipIdx.filter (·.1.2.holds t none)).map (·.2)

/-- The mask in a word of 64 bits. -/
def wordMask (f : Feature) (t : Token) : UInt64 :=
  (f.shifts t).foldl (fun word i => word ||| 1 <<< UInt64.ofNat i) 0

theorem mem_shifts {f : Feature} {t : Token} {i : Nat} :
    i ∈ f.shifts t ↔ ∃ type, f.types[i]? = some type ∧ type.2.holds t none = true := by
  simp [shifts, List.mem_zipIdx_iff_getElem?]

theorem testBit_foldl_shiftLeft (shifts : List Nat) (mask k : Nat) :
    (shifts.foldl (fun mask i => mask ||| 1 <<< i) mask).testBit k = true ↔ mask.testBit k = true ∨ k ∈ shifts := by
  induction shifts generalizing mask with
  | nil => simp
  | cons i rest ih =>
    have hbit : (mask ||| 1 <<< i).testBit k = true ↔ mask.testBit k = true ∨ k = i := by
      simp [Nat.testBit_or, Nat.one_shiftLeft, Nat.testBit_two_pow, eq_comm (a := k)]
    rw [List.foldl_cons, ih, hbit, List.mem_cons, or_assoc]

theorem mask_eq_foldl (f : Feature) (t : Token) :
    f.mask t = (f.shifts t).foldl (fun mask i => mask ||| 1 <<< i) 0 := by
  apply Nat.eq_of_testBit_eq
  intro k
  have hmask := testBit_maskFrom t f.types 0 k
  have hfold := testBit_foldl_shiftLeft (f.shifts t) 0 k
  rw [Bool.eq_iff_iff, hfold, mem_shifts]
  simpa [mask] using hmask

theorem toNat_foldl_shiftLeft {shifts : List Nat} (h : ∀ i ∈ shifts, i < 64) (word : UInt64) :
    (shifts.foldl (fun word i => word ||| 1 <<< UInt64.ofNat i) word).toNat =
      shifts.foldl (fun mask i => mask ||| 1 <<< i) word.toNat := by
  induction shifts generalizing word with
  | nil => rfl
  | cons i rest ih =>
    obtain ⟨hi, hrest⟩ := List.forall_mem_cons.mp h
    have hshift : (1 <<< UInt64.ofNat i : UInt64).toNat = 1 <<< i := by
      have hamount : (UInt64.ofNat i).toNat % 64 = i := by
        rw [UInt64.toNat_ofNat']
        omega
      have hlt : 2 ^ i < 2 ^ 64 := Nat.pow_lt_pow_right (by decide) hi
      rw [UInt64.toNat_shiftLeft, hamount, UInt64.toNat_one, Nat.one_shiftLeft]
      exact Nat.mod_eq_of_lt hlt
    rw [List.foldl_cons, List.foldl_cons, ih hrest, UInt64.toNat_or, hshift]

theorem shifts_lt {f : Feature} (h : f.types.length ≤ maxTypes) (t : Token) : ∀ i ∈ f.shifts t, i < 64 := by
  intro i hi
  obtain ⟨type, htype, -⟩ := mem_shifts.mp hi
  obtain ⟨hlt, -⟩ := List.getElem?_eq_some_iff.mp htype
  exact Nat.lt_of_lt_of_le hlt h

theorem toNat_wordMask {f : Feature} (h : f.types.length ≤ maxTypes) (t : Token) : (f.wordMask t).toNat = f.mask t := by
  rw [mask_eq_foldl]
  exact toNat_foldl_shiftLeft (shifts_lt h t) 0

end Feature

namespace Compile

/-- A type of a feature is compiled to one with its name and its condition. -/
def IsTypeOf (declared : String × ConditionDef) (type : String × Condition) : Prop :=
  declared.1 = type.1 ∧ Condition.compile declared.2 false = .ok type.2

theorem forall₂_of_featureTypes {declared : List (String × ConditionDef)} {types : List (String × Condition)}
    (h : featureTypes declared = .ok types) : List.Forall₂ IsTypeOf declared types := by
  induction declared generalizing types with
  | nil =>
    obtain rfl : [] = types := Except.ok.inj h
    exact .nil
  | cons first rest ih =>
    obtain ⟨c, hc, h⟩ := bind_eq_ok.mp h
    obtain ⟨others, hothers, h⟩ := bind_eq_ok.mp h
    obtain rfl := pure_eq_ok.mp h
    exact .cons ⟨rfl, mapError_eq_ok.mp hc⟩ (ih hothers)

theorem feature_eq_ok {d : FeatureDef} {f : Feature} (h : feature d = .ok f) :
    d.types.length ≤ Feature.maxTypes ∧ List.Forall₂ IsTypeOf d.types f.types := by
  have h := mapError_eq_ok.mp h
  split at h
  case isTrue => cases h
  case isFalse hfew =>
    obtain ⟨types, htypes, h⟩ := bind_eq_ok.mp h
    obtain rfl := pure_eq_ok.mp h
    exact ⟨Nat.le_of_not_lt hfew, forall₂_of_featureTypes htypes⟩

end Compile

namespace Agreement

variable (table : FeatureTable) (features : List Nat)

theorem agrees_congr {tokens others : List Token} (hne : tokens ≠ []) (h : ∀ t, t ∈ others ↔ t ∈ tokens) :
    (start.addAll table features others).agrees = (start.addAll table features tokens).agrees := by
  have hothers : others ≠ [] := by
    rintro rfl
    exact hne (List.eq_nil_iff_forall_not_mem.mpr fun t ht => List.not_mem_nil ((h t).mpr ht))
  rw [Bool.eq_iff_iff, agrees_addAll_start table features hothers, agrees_addAll_start table features hne]
  simp only [FeatureTable.Shares, h]

end Agreement

/-- A type that the feature in a place of the file declares is one that all tokens can have. -/
def RuleFile.DeclaresShared (file : RuleFile) (tokens : List Token) (i : Nat) : Prop :=
  ∃ d, file.features[i]? = some d ∧ ∃ type ∈ d.types, ∃ c, Condition.compile type.2 false = .ok c ∧
    ∀ t ∈ tokens, c.holds t none = true

namespace RuleContext

variable {file : RuleFile} {context : RuleContext}

theorem forall₂_features (h : ofFile file = .ok context) :
    List.Forall₂ (fun d f => Compile.feature d = .ok f) file.features context.features.features := by
  obtain ⟨features, hfeatures, h⟩ := bind_eq_ok.mp h
  obtain rfl := pure_eq_ok.mp h
  exact forall₂_of_mapM_eq_ok hfeatures

theorem length_types_le (h : ofFile file = .ok context) :
    ∀ f ∈ context.features.features, f.types.length ≤ Feature.maxTypes := by
  intro f hf
  obtain ⟨d, -, hd⟩ := exists_of_mem_right (forall₂_features h) hf
  obtain ⟨hlength, htypes⟩ := Compile.feature_eq_ok hd
  exact htypes.length_eq ▸ hlength

/-- The place of a feature in the table is its place in the file. -/
theorem exists_feature (h : ofFile file = .ok context) (i : Nat) :
    (file.features[i]? = none ∧ context.features.features[i]? = none) ∨
      ∃ d f, file.features[i]? = some d ∧ context.features.features[i]? = some f ∧
        List.Forall₂ Compile.IsTypeOf d.types f.types := by
  have hfeatures := forall₂_features h
  have hlength := hfeatures.length_eq
  rcases Nat.lt_or_ge i file.features.length with hi | hi
  · have hi' : i < context.features.features.length := hlength ▸ hi
    have hown : Compile.feature file.features[i] = .ok context.features.features[i] := hfeatures.get hi hi'
    have htypes := (Compile.feature_eq_ok hown).2
    exact Or.inr ⟨_, _, List.getElem?_eq_getElem hi, List.getElem?_eq_getElem hi', htypes⟩
  · have hi' : context.features.features.length ≤ i := hlength ▸ hi
    exact Or.inl ⟨List.getElem?_eq_none hi, List.getElem?_eq_none hi'⟩

theorem shares_iff (h : ofFile file = .ok context) (tokens : List Token) (i : Nat) :
    context.features.Shares tokens i ↔ file.DeclaresShared tokens i := by
  rcases exists_feature h i with ⟨hfile, htable⟩ | ⟨d, f, hfile, htable, htypes⟩
  · simp [FeatureTable.Shares, RuleFile.DeclaresShared, hfile, htable]
  · constructor
    · rintro ⟨f', hf', type, htype, hall⟩
      obtain rfl : f = f' := Option.some_inj.mp (htable.symm.trans hf')
      obtain ⟨declared, hdeclared, -, hc⟩ := exists_of_mem_right htypes htype
      exact ⟨d, hfile, declared, hdeclared, type.2, hc, hall⟩
    · rintro ⟨d', hd', declared, hdeclared, c, hc, hall⟩
      obtain rfl : d = d' := Option.some_inj.mp (hfile.symm.trans hd')
      obtain ⟨type, htype, -, hc'⟩ := exists_of_mem_right (List.Forall₂.flip htypes) hdeclared
      obtain rfl : c = type.2 := Except.ok.inj (hc.symm.trans hc')
      exact ⟨f, htable, type, htype, hall⟩

/-- What tokens that are counted in say about their agreement in features of a file. -/
structure Decides (file : RuleFile) (context : RuleContext) (features : List Nat) (tokens : List Token) : Prop where
  agrees_iff : (Agreement.start.addAll context.features features tokens).agrees = true ↔
    ∀ i ∈ features, file.DeclaresShared tokens i
  satisfies_false : (Agreement.start.addAll context.features features tokens).satisfies false =
    (Agreement.start.addAll context.features features tokens).agrees
  satisfies_true : (Agreement.start.addAll context.features features tokens).satisfies true =
    !(Agreement.start.addAll context.features features tokens).satisfies false
  /-- It does not matter in which order tokens come, or how often. -/
  same_tokens : ∀ others : List Token, (∀ t, t ∈ others ↔ t ∈ tokens) →
    (Agreement.start.addAll context.features features others).agrees =
        (Agreement.start.addAll context.features features tokens).agrees ∧
      ∀ negate, (Agreement.start.addAll context.features features others).satisfies negate =
        (Agreement.start.addAll context.features features tokens).satisfies negate

/-- No shift of a mask goes beyond a word of 64 bits, so the mask is the same in such a word. -/
structure FitsWord (f : Feature) (t : Token) : Prop where
  mask_eq : f.mask t = (f.shifts t).foldl (fun mask i => mask ||| 1 <<< i) 0
  shifts_lt : ∀ i ∈ f.shifts t, i < 64
  toNat_wordMask : (f.wordMask t).toNat = f.mask t

/-- For the features that a file is compiled to, tokens agree just in case they share a declared type of each feature, and
masks are words. -/
theorem agreement_of_ofFile (h : ofFile file = .ok context) (features : List Nat) {tokens : List Token}
    (hne : tokens ≠ []) : Decides file context features tokens ∧
      ∀ f ∈ context.features.features, ∀ t, FitsWord f t := by
  constructor
  · constructor
    case agrees_iff =>
      rw [Agreement.agrees_addAll_start context.features features hne]
      exact forall₂_congr fun i _ => shares_iff h tokens i
    case satisfies_false => rw [Agreement.satisfies_addAll _ _ hne, Bool.bne_false]
    case satisfies_true =>
      rw [Agreement.satisfies_addAll _ _ hne, Agreement.satisfies_addAll _ _ hne, Bool.bne_false, Bool.bne_true]
    case same_tokens =>
      intro others hothers
      have hagrees := Agreement.agrees_congr context.features features hne hothers
      have hothersNe : others ≠ [] := by
        obtain ⟨t, ht⟩ := List.exists_mem_of_ne_nil tokens hne
        exact List.ne_nil_of_mem ((hothers t).mpr ht)
      refine ⟨hagrees, fun negate => ?_⟩
      rw [Agreement.satisfies_addAll _ _ hothersNe, Agreement.satisfies_addAll _ _ hne, hagrees]
  · intro f hf t
    have hlength := length_types_le h f hf
    exact ⟨f.mask_eq_foldl t, Feature.shifts_lt hlength t, Feature.toNat_wordMask hlength t⟩

/-- A feature with as many types as there may be, and one with two. -/
def widestFeatures : RuleFile where
  features := [
    ⟨"gender", List.replicate 63 ("other", { tag := some (.literal "O") }) ++ [("last", { tag := some (.literal "L") })],
      default⟩,
    ⟨"number", [("sg", { tag := some (.literal "S") }), ("pl", { tag := some (.literal "P") })], default⟩]

def sharedPair : List Token := [.new "a" [.of "a" "L", .of "a" "P"], .new "b" [.of "b" "S", .of "b" "P", .of "b" "L"]]

/-- The two tokens share the type of the highest bit, and one of the two numbers. -/
theorem agreement_widestFeatures :
    ∃ context, ofFile widestFeatures = .ok context ∧ sharedPair ≠ [] ∧
      (Agreement.start.addAll context.features [0, 1, 1] sharedPair).agrees = true ∧
      sharedPair.map (fun t => context.features.features.map (·.shifts t)) = [[[63], [1]], [[63], [0, 1]]] ∧
      Decides widestFeatures context [0, 1, 1] sharedPair ∧
      ∀ f ∈ context.features.features, ∀ t, FitsWord f t := by
  have hrun : (ofFile widestFeatures).toOption.map (fun context =>
      ((Agreement.start.addAll context.features [0, 1, 1] sharedPair).agrees,
        sharedPair.map (fun t => context.features.features.map (·.shifts t)))) =
      some (true, [[[63], [1]], [[63], [0, 1]]]) := by decide +kernel
  obtain ⟨context, hcontext, hrun⟩ := Option.map_eq_some_iff.mp hrun
  rw [toOption_eq_some] at hcontext
  obtain ⟨hagrees, hshifts⟩ := Prod.mk.inj hrun
  have hne : sharedPair ≠ [] := List.cons_ne_nil _ _
  exact ⟨context, hcontext, hne, hagrees, hshifts, agreement_of_ofFile hcontext [0, 1, 1] hne⟩

end RuleContext

end GrammarCheck
