/-! Texts that are kept once each. A text is known by its place, which never changes. -/

namespace GrammarCheck.Text

structure Interner where
  texts : List String
  distinct : texts.Nodup
  deriving DecidableEq

namespace Interner

def empty : Interner := ⟨[], List.Pairwise.nil⟩

instance : Inhabited Interner := ⟨empty⟩

def size (t : Interner) : Nat := t.texts.length

theorem nodup_concat {texts : List String} (h : texts.Nodup) {s : String} (hs : s ∉ texts) : (texts ++ [s]).Nodup := by
  refine List.nodup_append.mpr ⟨h, List.pairwise_singleton _ _, ?_⟩
  intro text htext other hother heq
  obtain rfl := List.mem_singleton.mp hother
  exact hs (heq ▸ htext)

/-- The place of a text, which is added if it is not there. -/
def intern (t : Interner) (s : String) : Nat × Interner :=
  if h : s ∈ t.texts then (t.texts.idxOf s, t) else (t.size, ⟨t.texts ++ [s], nodup_concat t.distinct h⟩)

/-- The text at a place that was given out. -/
def resolve (t : Interner) (key : Nat) : String := t.texts.getD key ""

/-- Nothing that is there moves when texts are added. -/
def Extends (t' t : Interner) : Prop := t.texts <+: t'.texts

theorem Extends.refl (t : Interner) : t.Extends t := List.prefix_rfl

theorem Extends.trans {t t' t'' : Interner} (h : t''.Extends t') (h' : t'.Extends t) : t''.Extends t :=
  List.IsPrefix.trans h' h

theorem Extends.size_le {t t' : Interner} (h : t'.Extends t) : t.size ≤ t'.size := List.IsPrefix.length_le h

theorem Extends.resolve_eq {t t' : Interner} (h : t'.Extends t) {key : Nat} (hkey : key < t.size) :
    t'.resolve key = t.resolve key := by
  obtain ⟨more, hmore⟩ := h
  rw [resolve, resolve, ← hmore, List.getD_eq_getElem?_getD, List.getD_eq_getElem?_getD,
    List.getElem?_append_left hkey]

theorem extends_intern (t : Interner) (s : String) : (t.intern s).2.Extends t := by
  unfold intern
  split
  · exact Extends.refl t
  · exact List.prefix_append t.texts [s]

theorem lt_size_intern (t : Interner) (s : String) : (t.intern s).1 < (t.intern s).2.size := by
  unfold intern
  split
  · rename_i h
    exact List.idxOf_lt_length_of_mem h
  · show t.texts.length < (t.texts ++ [s]).length
    rw [List.length_append, List.length_singleton]
    exact Nat.lt_succ_self _

@[simp] theorem resolve_intern (t : Interner) (s : String) : (t.intern s).2.resolve (t.intern s).1 = s := by
  unfold intern resolve
  split
  · rename_i h
    rw [List.getD_eq_getElem?_getD, List.getElem?_eq_getElem (List.idxOf_lt_length_of_mem h), Option.getD_some]
    exact List.getElem_idxOf _
  · rw [List.getD_eq_getElem?_getD, size, List.getElem?_concat_length, Option.getD_some]

/-- Two places hold two texts. -/
theorem resolve_inj {t : Interner} {key key' : Nat} (hkey : key < t.size) (hkey' : key' < t.size)
    (h : t.resolve key = t.resolve key') : key = key' := by
  rw [resolve, resolve, List.getD_eq_getElem?_getD, List.getD_eq_getElem?_getD, List.getElem?_eq_getElem hkey,
    List.getElem?_eq_getElem hkey', Option.getD_some, Option.getD_some] at h
  have hdistinct := List.pairwise_iff_getElem.mp t.distinct
  rcases Nat.lt_trichotomy key key' with hlt | hsame | hgt
  · exact absurd h (hdistinct key key' hkey hkey' hlt)
  · exact hsame
  · exact absurd h.symm (hdistinct key' key hkey' hkey hgt)

end Interner

end GrammarCheck.Text
