import GrammarCheck.Reading
import Mathlib.Data.List.DropRight

/-! Lists of readings as text. The items stand between bars, with any blanks around them, and the tag of an item stands
behind its last slash. A reading can be listed if its parts hold nothing that would be taken for one of these; such
readings are read back, and all that are read are such. -/

namespace GrammarCheck

open Unicode (isWhitespace)

namespace Text

variable {p : Char → Bool} {separator : Char} {text before after piece : List Char}

theorem splitAtChar_eq_splitOn (separator : Char) (text : List Char) :
    splitAtChar separator text = text.splitOn separator := by
  induction text with
  | nil => rfl
  | cons c rest ih =>
    rw [splitAtChar, ih, List.splitOn_cons_eq_if_modifyHead]
    by_cases hc : c = separator
    · rw [if_pos hc, if_pos (beq_iff_eq.mpr hc)]
    · rw [if_neg hc, if_neg (mt beq_iff_eq.mp hc)]
      cases hpieces : rest.splitOn separator with
      | nil => exact absurd hpieces (List.splitOn_ne_nil _ _)
      | cons piece pieces => rfl

theorem not_mem_of_mem_splitAtChar (h : piece ∈ splitAtChar separator text) : separator ∉ piece := by
  induction text generalizing piece with
  | nil => exact List.mem_singleton.mp h ▸ List.not_mem_nil
  | cons c rest ih =>
    rw [splitAtChar] at h
    split at h
    case isTrue =>
      rcases List.mem_cons.mp h with rfl | h
      · exact List.not_mem_nil
      · exact ih h
    case isFalse hc =>
      cases hpieces : splitAtChar separator rest with
      | nil =>
        rw [hpieces] at h
        rw [List.mem_singleton.mp h, List.mem_singleton]
        exact Ne.symm hc
      | cons first pieces =>
        rw [hpieces] at h ih
        rcases List.mem_cons.mp h with rfl | h
        · exact List.not_mem_cons_of_ne_of_not_mem (Ne.symm hc) (ih List.mem_cons_self)
        · exact ih (List.mem_cons_of_mem _ h)

theorem splitAtLast?_append (before : List Char) (hafter : separator ∉ after) :
    splitAtLast? separator (before ++ separator :: after) = some (before, after) := by
  have hall : ∀ c ∈ after.reverse, (c != separator) = true := by
    intro c hc
    rw [bne_iff_ne]
    rintro rfl
    exact hafter (List.mem_reverse.mp hc)
  have hreverse : (before ++ separator :: after).reverse = after.reverse ++ separator :: before.reverse := by simp
  have hdrop : (after.reverse ++ separator :: before.reverse).dropWhile (· != separator) =
      separator :: before.reverse := by
    rw [List.dropWhile_append_of_pos hall, List.dropWhile_cons_of_neg (by simp)]
  have htake : (after.reverse ++ separator :: before.reverse).takeWhile (· != separator) = after.reverse := by
    rw [List.takeWhile_append_of_pos hall, List.takeWhile_cons_of_neg (by simp), List.append_nil]
  unfold splitAtLast?
  rw [hreverse, hdrop, htake]
  simp only [List.reverse_reverse]

theorem eq_append_of_splitAtLast? (h : splitAtLast? separator text = some (before, after)) :
    text = before ++ separator :: after ∧ separator ∉ after := by
  unfold splitAtLast? at h
  dsimp only at h
  split at h
  case h_1 => cases h
  case h_2 c rest hdrop =>
    obtain ⟨rfl, rfl⟩ := Prod.mk.inj (Option.some.inj h)
    obtain rfl : c = separator := by
      have hstop := List.head?_dropWhile_not (· != separator) text.reverse
      rw [hdrop] at hstop
      simpa using hstop
    constructor
    · calc text = (text.reverse.takeWhile (· != c) ++ text.reverse.dropWhile (· != c)).reverse := by
            rw [List.takeWhile_append_dropWhile, List.reverse_reverse]
        _ = rest.reverse ++ c :: (text.reverse.takeWhile (· != c)).reverse := by simp [hdrop]
    · intro hmem
      have hne := List.mem_takeWhile_imp (p := (· != c)) (List.mem_reverse.mp hmem)
      exact bne_iff_ne.mp hne rfl

theorem any_eq_false_iff {o : Option Char} : o.any p = false ↔ ∀ c ∈ o, p c = false := by
  cases o with
  | none => simp
  | some c => simp

theorem dropWhile_eq_self (h : text.head?.any p = false) : text.dropWhile p = text := by
  cases text with
  | nil => rfl
  | cons c rest => exact List.dropWhile_cons_of_neg (Bool.eq_false_iff.mp h)

/-- What is left of a text between blanks when they are trimmed. -/
theorem dropTrailing_dropLeading_append (hbefore : before.all p = true) (hafter : after.all p = true) (hne : text ≠ [])
    (hfirst : text.head?.any p = false) (hlast : text.getLast?.any p = false) :
    dropTrailing p (dropLeading p (before ++ text ++ after)) = text := by
  have hhead : (text ++ after).head?.any p = false := by rwa [List.head?_append_of_ne_nil _ hne]
  have hback : after.reverse.all p = true := by rwa [List.all_reverse]
  rw [dropLeading, List.append_assoc, List.dropWhile_append_of_pos (List.all_eq_true.mp hbefore),
    dropWhile_eq_self hhead, dropTrailing, List.reverse_append,
    List.dropWhile_append_of_pos (List.all_eq_true.mp hback), dropWhile_eq_self (by rwa [List.head?_reverse]),
    List.reverse_reverse]

end Text

namespace Reading

/-- The reading can stand in a list: no part is empty, a bar ends an item, the last slash divides it, and blanks at its ends
are trimmed. -/
structure IsListable (r : Reading) : Prop where
  base : ∀ text ∈ r.base, text ≠ "" ∧ '|' ∉ text.toList ∧ text.toList.head?.any isWhitespace = false
  tag : ∀ text ∈ r.tag,
    text ≠ "" ∧ '|' ∉ text.toList ∧ '/' ∉ text.toList ∧ text.toList.getLast?.any isWhitespace = false

instance (r : Reading) : Decidable r.IsListable :=
  decidable_of_iff (_ ∧ _) ⟨fun h => ⟨h.1, h.2⟩, fun h => ⟨h.base, h.tag⟩⟩

/-- A reading and what stands between it and the bars. -/
structure ListItem where
  before : String
  reading : Reading
  after : String

namespace ListItem

def text (i : ListItem) : String := i.before ++ i.reading.toItem ++ i.after

structure IsWellFormed (i : ListItem) : Prop where
  before : i.before.toList.all isWhitespace = true
  reading : i.reading.IsListable
  after : i.after.toList.all isWhitespace = true

instance (i : ListItem) : Decidable i.IsWellFormed :=
  decidable_of_iff (_ ∧ _ ∧ _) ⟨fun h => ⟨h.1, h.2.1, h.2.2⟩, fun h => ⟨h.before, h.reading, h.after⟩⟩

end ListItem

/-- The list of items in which readings are written. -/
def writeList (items : List ListItem) : String := "|".intercalate (items.map ListItem.text)

variable {r : Reading}

theorem part_getD {part : Option String} (h : ∀ text, part = some text → text ≠ "") :
    ofItem?.part (part.getD "").toList = part := by
  cases part with
  | none => rfl
  | some text =>
    have hne : text.toList ≠ [] := by simpa using h text rfl
    rw [Option.getD_some, ofItem?.part, if_neg (by simpa using hne), String.ofList_toList]

theorem toList_toItem (r : Reading) : r.toItem.toList = (r.base.getD "").toList ++ '/' :: (r.tag.getD "").toList := by
  simp [toItem]

namespace IsListable

theorem bar_not_mem (h : r.IsListable) : '|' ∉ r.toItem.toList := by
  have hbase : '|' ∉ (r.base.getD "").toList := by
    cases hb : r.base with
    | none => simp
    | some text => exact (h.base text hb).2.1
  have htag : '|' ∉ (r.tag.getD "").toList := by
    cases ht : r.tag with
    | none => simp
    | some text => exact (h.tag text ht).2.1
  simp [toList_toItem, hbase, htag]

theorem slash_not_mem_tag (h : r.IsListable) : '/' ∉ (r.tag.getD "").toList := by
  cases ht : r.tag with
  | none => simp
  | some text => exact (h.tag text ht).2.2.1

theorem not_blank_first (h : r.IsListable) : r.toItem.toList.head?.any isWhitespace = false := by
  rw [toList_toItem]
  cases hb : r.base with
  | none => rfl
  | some text =>
    obtain ⟨hne, -, hfirst⟩ := h.base text hb
    rwa [Option.getD_some, List.head?_append_of_ne_nil _ (by simpa using hne)]

theorem not_blank_last (h : r.IsListable) : r.toItem.toList.getLast?.any isWhitespace = false := by
  rw [toList_toItem, List.getLast?_append_of_ne_nil _ (List.cons_ne_nil _ _)]
  cases ht : r.tag with
  | none => rfl
  | some text =>
    obtain ⟨hne, -, -, hlast⟩ := h.tag text ht
    rwa [Option.getD_some, List.getLast?_cons_of_ne_nil (by simpa using hne)]

end IsListable

/-- One item is read back. -/
theorem ofItem?_text {i : ListItem} (h : i.IsWellFormed) : ofItem? i.text.toList = some i.reading := by
  have hne : i.reading.toItem.toList ≠ [] := by simp [toList_toItem]
  have htrimmed := Text.dropTrailing_dropLeading_append h.before h.after hne h.reading.not_blank_first
    h.reading.not_blank_last
  have hbase := part_getD fun text hb => (h.reading.base text hb).1
  have htag := part_getD fun text ht => (h.reading.tag text ht).1
  rw [ofItem?, ListItem.text, String.toList_append, String.toList_append, htrimmed]
  dsimp only
  rw [if_neg (by simpa using hne), toList_toItem, Text.splitAtLast?_append _ h.reading.slash_not_mem_tag,
    Option.getD_some]
  dsimp only
  rw [hbase, htag]

/-- What is left of an item has no blank at its ends. -/
theorem trimmed_ends (item : List Char) :
    let trimmed := Text.dropTrailing isWhitespace (Text.dropLeading isWhitespace item)
    trimmed ⊆ item ∧ trimmed.head?.any isWhitespace = false ∧ trimmed.getLast?.any isWhitespace = false := by
  intro trimmed
  obtain ⟨cut, hcut⟩ : trimmed <+: Text.dropLeading isWhitespace item := List.rdropWhile_prefix _ _
  have hstart : trimmed ++ cut = item.dropWhile isWhitespace := hcut
  refine ⟨fun c hc => ?_, Text.any_eq_false_iff.mpr fun c hc => ?_, Text.any_eq_false_iff.mpr fun c hc => ?_⟩
  · exact List.dropWhile_subset _ (hstart ▸ List.mem_append_left cut hc)
  · have hstop := List.head?_dropWhile_not isWhitespace item
    rw [← hstart, show (trimmed ++ cut).head? = some c from List.mem_head?_append_of_mem_head? hc] at hstop
    exact hstop
  · obtain ⟨hne, rfl⟩ := List.mem_getLast?_eq_getLast hc
    exact Bool.eq_false_iff.mpr (List.rdropWhile_last_not _ _ hne)

theorem part_eq_some {text : List Char} {s : String} (h : ofItem?.part text = some s) :
    s ≠ "" ∧ s.toList = text := by
  unfold ofItem?.part at h
  split at h
  case isTrue => cases h
  case isFalse hne =>
    obtain rfl := Option.some.inj h
    exact ⟨by simpa using hne, String.toList_ofList⟩

theorem isListable_of_parts {base tag : List Char} (hbase : '|' ∉ base)
    (hfirst : base.head?.any isWhitespace = false) (htag : '|' ∉ tag) (hslash : '/' ∉ tag)
    (hlast : tag.getLast?.any isWhitespace = false) : IsListable ⟨ofItem?.part base, ofItem?.part tag⟩ where
  base text h := by
    obtain ⟨hne, rfl⟩ := part_eq_some h
    exact ⟨hne, hbase, hfirst⟩
  tag text h := by
    obtain ⟨hne, rfl⟩ := part_eq_some h
    exact ⟨hne, htag, hslash, hlast⟩

theorem isListable_of_ofItem? {item : List Char} (hitem : '|' ∉ item) (h : ofItem? item = some r) : r.IsListable := by
  obtain ⟨hsubset, hfirst, hlast⟩ := trimmed_ends item
  unfold ofItem? at h
  dsimp only at h
  generalize Text.dropTrailing isWhitespace (Text.dropLeading isWhitespace item) = trimmed at h hsubset hfirst hlast
  have hbar : '|' ∉ trimmed := fun hmem => hitem (hsubset hmem)
  split at h
  case isTrue => cases h
  case isFalse =>
    obtain rfl := Option.some.inj h
    cases hsplit : Text.splitAtLast? '/' trimmed with
    | none => exact isListable_of_parts hbar hfirst List.not_mem_nil List.not_mem_nil rfl
    | some parts =>
      obtain ⟨base, tag⟩ := parts
      obtain ⟨rfl, hslash⟩ := Text.eq_append_of_splitAtLast? hsplit
      rw [List.mem_append, List.mem_cons, not_or, not_or] at hbar
      rw [Text.any_eq_false_iff] at hfirst hlast
      refine isListable_of_parts hbar.1 (Text.any_eq_false_iff.mpr fun c hc => ?_) hbar.2.2 hslash
        (Text.any_eq_false_iff.mpr fun c hc => ?_)
      · exact hfirst c (List.mem_head?_append_of_mem_head? hc)
      · have htext : base ++ '/' :: tag = (base ++ ['/']) ++ tag := by simp
        exact hlast c (htext ▸ List.mem_getLast?_append_of_mem_getLast? hc)

theorem ListItem.IsWellFormed.bar_not_mem {i : ListItem} (h : i.IsWellFormed) : '|' ∉ i.text.toList := by
  have hblank (text : String) (hall : text.toList.all isWhitespace = true) : '|' ∉ text.toList := by
    intro hmem
    exact absurd (List.all_eq_true.mp hall '|' hmem) (by decide)
  simp only [ListItem.text, String.toList_append, List.mem_append, not_or]
  exact ⟨⟨hblank _ h.before, h.reading.bar_not_mem⟩, hblank _ h.after⟩

/-- The readings that are written are read back, none dropped, merged or changed, whatever blanks stand around the bars; and
what is read is always a reading that can be written so. -/
theorem readList_inverts_writeList :
    (∀ items : List ListItem, (∀ i ∈ items, i.IsWellFormed) → readList (writeList items) = items.map (·.reading)) ∧
      ∀ list : String, ∀ r ∈ readList list, r.IsListable := by
  constructor
  · intro items hitems
    rcases eq_or_ne items [] with rfl | hne
    · decide
    have hbars : ∀ piece ∈ items.map fun i => i.text.toList, '|' ∉ piece := by
      rw [List.forall_mem_map]
      exact fun i hi => (hitems i hi).bar_not_mem
    have hpieces : Text.splitAtChar '|' (writeList items).toList = items.map fun i => i.text.toList := by
      rw [Text.splitAtChar_eq_splitOn, writeList, String.toList_intercalate, List.map_map]
      exact List.splitOn_intercalate '|' hbars (by simpa using hne)
    rw [readList, hpieces, List.filterMap_map, ← List.filterMap_eq_map]
    exact List.filterMap_congr fun i hi => ofItem?_text (hitems i hi)
  · intro list r hr
    obtain ⟨item, hitem, hr⟩ := List.mem_filterMap.mp hr
    exact isListable_of_ofItem? (Text.not_mem_of_mem_splitAtChar hitem) hr

/-- Slashes and a blank in base forms, missing parts, and blanks around some bars. -/
def mixedList : List ListItem :=
  [⟨"", ⟨some "and/or ", some "CC"⟩, "\u3000"⟩, ⟨"\t", ⟨none, some " X"⟩, ""⟩, ⟨" ", ⟨none, none⟩, ""⟩,
    ⟨"", ⟨some "/", none⟩, "\n"⟩]

theorem readList_mixedList :
    (∀ i ∈ mixedList, i.IsWellFormed) ∧ writeList mixedList = "and/or /CC\u3000|\t/ X| /|//\n" ∧
      readList "and/or /CC\u3000|\t/ X| /|//\n" =
        [⟨some "and/or ", some "CC"⟩, ⟨none, some " X"⟩, ⟨none, none⟩, ⟨some "/", none⟩] ∧
      ∀ r ∈ readList "and/or /CC\u3000|\t/ X| /|//\n", r.IsListable := by
  have hitems : ∀ i ∈ mixedList, i.IsWellFormed := by decide
  have hwritten : writeList mixedList = "and/or /CC\u3000|\t/ X| /|//\n" := by decide
  obtain ⟨hread, hlistable⟩ := readList_inverts_writeList
  exact ⟨hitems, hwritten, hwritten ▸ hread mixedList hitems, hlistable _⟩

end Reading

end GrammarCheck
