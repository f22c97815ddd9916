import GrammarCheck.Proofs.Source.Attributes

/-! The counts of a rule file. A count that is written is read as a number of 64 bits or refused, and the counts that
stand where nothing is written are small, so every token of a file has counts of 64 bits. -/

namespace GrammarCheck

open Success

theorem Text.count?_le {text : String} {n : Nat} (h : count? text = some n) : n ≤ maxCount := by
  simp only [count?, countOfDigits?, Option.ite_none_left_eq_some, Option.ite_none_right_eq_some] at h
  obtain ⟨-, hle, h⟩ := h
  exact Option.some.inj h ▸ hle

/-- The bound is a number of 64 bits, if it is one at all. -/
def Bound.IsCount (b : Bound) : Prop := ∀ n, b = .upTo n → n ≤ Text.maxCount

/-- How often a token may occur, and how many tokens may be passed over after it, in 64 bits. -/
structure TokenDef.HasCounts (t : TokenDef) : Prop where
  min : t.min ≤ Text.maxCount
  max : t.max.IsCount
  skip : t.skip.IsCount

namespace Source

variable {location : Location} {op : Operator} {value : String}

theorem le_of_countValue {n : Nat} (h : countValue location op value = .ok n) : n ≤ Text.maxCount := by
  unfold countValue at h
  split at h
  case isTrue => cases h
  case isFalse =>
    split at h
    case h_1 _ hcount => exact Except.ok.inj h ▸ Text.count?_le hcount
    case h_2 => cases h

theorem isCount_of_boundValue {b : Bound} (h : boundValue location op value = .ok b) : b.IsCount := by
  unfold boundValue at h
  split at h
  case isTrue =>
    obtain rfl := Except.ok.inj h
    exact nofun
  case isFalse =>
    rw [map_eq_pure_bind] at h
    obtain ⟨n, hn, h⟩ := bind_eq_ok.mp h
    obtain rfl := pure_eq_ok.mp h
    rintro _ ⟨⟩
    exact le_of_countValue hn

theorem hasCounts_default (location : Location) : TokenDef.HasCounts { location } where
  min := show 1 ≤ Text.maxCount by decide
  max := by
    rintro _ ⟨⟩
    decide
  skip := by
    rintro _ ⟨⟩
    decide

/-- An attribute sets one count, or none. -/
theorem hasCounts_of_applyToToken {t t' : TokenDef} {a : Attribute} (ht : t.HasCounts) (h : applyToToken t a = .ok t') :
    t'.HasCounts := by
  have hcondition (h : (do let c ← applyAttribute t.condition a; pure { t with condition := c.getD t.condition }) =
      .ok t') : t'.HasCounts := by
    obtain ⟨c, -, h⟩ := bind_eq_ok.mp h
    exact pure_eq_ok.mp h ▸ ⟨ht.min, ht.max, ht.skip⟩
  cases a with
  | exception scope conditions location =>
    obtain ⟨e, -, h⟩ := bind_eq_ok.mp h
    exact pure_eq_ok.mp h ▸ ⟨ht.min, ht.max, ht.skip⟩
  | setting key op value location =>
    cases key with
    | min =>
      obtain ⟨n, hn, h⟩ := bind_eq_ok.mp h
      exact pure_eq_ok.mp h ▸ ⟨le_of_countValue hn, ht.max, ht.skip⟩
    | max =>
      obtain ⟨b, hb, h⟩ := bind_eq_ok.mp h
      exact pure_eq_ok.mp h ▸ ⟨ht.min, isCount_of_boundValue hb, ht.skip⟩
    | skip =>
      obtain ⟨b, hb, h⟩ := bind_eq_ok.mp h
      exact pure_eq_ok.mp h ▸ ⟨ht.min, ht.max, isCount_of_boundValue hb⟩
    | text => exact hcondition h
    | base => exact hcondition h
    | tag => exact hcondition h
    | ref => exact hcondition h
    | space => exact hcondition h
  | negation location => exact hcondition h
  | caseFlag location => exact hcondition h
  | bareText text location => exact hcondition h

theorem TokenForm.hasCounts_of_define {form : TokenForm} {t : TokenDef} (h : form.define = .ok t) : t.HasCounts :=
  of_foldlM_eq_ok TokenDef.HasCounts h (hasCounts_default form.location) fun _ _ _ _ => hasCounts_of_applyToToken

end Source

/-- Every token of a file that was read has counts of 64 bits. -/
theorem RuleFile.hasCounts_of_read {source : String} {file : RuleFile} (h : RuleFile.read source = .ok file)
    {t : TokenDef} (ht : file.HasToken t) : t.HasCounts := by
  obtain ⟨forms, -, hfile⟩ := read_eq_ok_iff.mp h
  obtain ⟨form, -, written, -, hdefine⟩ := (isDefinedBy_of_ofForms hfile).exists_token ht
  exact written.hasCounts_of_define hdefine

end GrammarCheck
