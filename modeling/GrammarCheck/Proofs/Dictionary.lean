import GrammarCheck.Dictionary
import Mathlib.Data.List.Basic

/-! Reading dictionaries. Texts are kept at places, and two places hold two texts, so a pair of places is as good as a
reading: with the texts put in, adding the pair is adding the reading. What the lines hold is then collected form by form. -/

namespace GrammarCheck.Dictionary

section Collecting

variable {α β : Type} [DecidableEq α] [DecidableEq β]

theorem eraseDups_concat (items : List α) (item : α) : (items ++ [item]).eraseDups = addNew items.eraseDups item := by
  rw [List.eraseDups_append, addNew]
  by_cases hitem : item ∈ items
  · simp [List.removeAll, hitem]
  · simp [List.removeAll, hitem, List.eraseDups_cons]

theorem map_addNew (f : α → β) {items : List α} {item : α} (h : ∀ other ∈ items, f other = f item → other = item) :
    (addNew items item).map f = addNew (items.map f) (f item) := by
  have hmem : f item ∈ items.map f ↔ item ∈ items := by
    constructor
    · intro hf
      obtain ⟨other, hother, heq⟩ := List.mem_map.mp hf
      exact h other hother heq ▸ hother
    · exact List.mem_map_of_mem
  simp only [addNew, hmem]
  split
  · rfl
  · rw [List.map_append, List.map_singleton]

theorem map_addTo (f : α → β) (form : String) {item : α} {entries : List (String × List α)}
    (h : ∀ entry ∈ entries, ∀ other ∈ entry.2, f other = f item → other = item) :
    (addTo form item entries).map (Prod.map id (List.map f)) =
      addTo form (f item) (entries.map (Prod.map id (List.map f))) := by
  induction entries with
  | nil => rfl
  | cons entry rest ih =>
    obtain ⟨f', items⟩ := entry
    have hrest := ih fun entry hentry => h entry (List.mem_cons_of_mem _ hentry)
    have hitems := map_addNew f (h (f', items) List.mem_cons_self)
    by_cases hform : f' = form
    · simp [addTo, hform, hitems]
    · simp [addTo, hform, hrest]

theorem forms_addTo (form : String) (item : α) (entries : List (String × List α)) :
    (addTo form item entries).map Prod.fst = addNew (entries.map Prod.fst) form := by
  induction entries with
  | nil => rfl
  | cons entry rest ih =>
    obtain ⟨f, items⟩ := entry
    by_cases hform : f = form
    · simp [addTo, addNew, hform]
    · rw [addTo, if_neg hform, List.map_cons, ih]
      by_cases hmem : form ∈ rest.map Prod.fst
      · simp [addNew, hmem]
      · simp [addNew, hmem, Ne.symm hform]

omit [DecidableEq α] in
theorem items_cons (f : String) (items : List α) (rest : List (String × List α)) (other : String) :
    (((f, items) :: rest).lookup other).getD [] = if other = f then items else (rest.lookup other).getD [] := by
  by_cases hother : other = f
  · simp [hother]
  · simp [List.lookup_cons, beq_eq_false_iff_ne.mpr hother, hother]

theorem items_addTo (form : String) (item : α) (entries : List (String × List α)) (other : String) :
    ((addTo form item entries).lookup other).getD [] =
      if other = form then addNew ((entries.lookup other).getD []) item else (entries.lookup other).getD [] := by
  induction entries with
  | nil => rw [addTo, items_cons]; rfl
  | cons entry rest ih =>
    obtain ⟨f, items⟩ := entry
    by_cases hform : f = form
    · rw [addTo, if_pos hform, items_cons, items_cons, ← hform]
      split <;> rfl
    · rw [addTo, if_neg hform, items_cons, items_cons, ih]
      by_cases hother : other = f
      · have hne : other ≠ form := fun h => hform (hother ▸ h)
        rw [if_pos hother, if_pos hother, if_neg hne]
      · rw [if_neg hother, if_neg hother]

theorem forall_items_addTo {p : α → Prop} (form : String) {item : α} {entries : List (String × List α)} (hitem : p item)
    (h : ∀ entry ∈ entries, ∀ other ∈ entry.2, p other) : ∀ entry ∈ addTo form item entries, ∀ other ∈ entry.2, p other := by
  induction entries with
  | nil => simpa [addTo] using hitem
  | cons entry rest ih =>
    obtain ⟨f, items⟩ := entry
    obtain ⟨hitems, hrest⟩ := List.forall_mem_cons.mp h
    rw [addTo]
    split
    · refine List.forall_mem_cons.mpr ⟨fun other hother => ?_, hrest⟩
      dsimp only [addNew] at hother
      split at hother
      · exact hitems other hother
      · rcases List.mem_append.mp hother with hold | hnew
        · exact hitems other hold
        · exact List.mem_singleton.mp hnew ▸ hitem
    · exact List.forall_mem_cons.mpr ⟨hitems, ih hrest⟩

/-- What was added in order: each form once, and under a form its items once each. -/
structure Collects (entries : List (String × List α)) (added : List (String × α)) : Prop where
  forms : entries.map Prod.fst = (added.map Prod.fst).eraseDups
  items (form : String) : (entries.lookup form).getD [] = ((added.filter (·.1 = form)).map Prod.snd).eraseDups

theorem Collects.nil : Collects ([] : List (String × List α)) [] := ⟨rfl, fun _ => rfl⟩

theorem Collects.addTo {entries : List (String × List α)} {added : List (String × α)} (h : Collects entries added)
    (form : String) (item : α) : Collects (addTo form item entries) (added ++ [(form, item)]) := by
  constructor
  · rw [forms_addTo, h.forms, List.map_append, List.map_singleton, eraseDups_concat]
  · intro other
    rw [items_addTo, h.items other, List.filter_append, List.map_append]
    by_cases hother : other = form
    · simp [hother, eraseDups_concat]
    · simp [hother, Ne.symm hother]

end Collecting

namespace Draft

variable {d : Draft} {added : List (String × Reading)}

/-- Both places have a text. -/
def IsPlaced (d : Draft) (keys : Nat × Nat) : Prop := keys.1 < d.texts.size ∧ keys.2 < d.texts.size

theorem reading_inj {keys keys' : Nat × Nat} (hkeys : d.IsPlaced keys) (hkeys' : d.IsPlaced keys')
    (h : d.reading keys = d.reading keys') : keys = keys' := by
  obtain ⟨hbase, htag⟩ := Reading.mk.inj h
  exact Prod.ext (Text.Interner.resolve_inj hkeys.1 hkeys'.1 (Option.some.inj hbase))
    (Text.Interner.resolve_inj hkeys.2 hkeys'.2 (Option.some.inj htag))

theorem IsPlaced.extends {keys : Nat × Nat} (h : d.IsPlaced keys) {d' : Draft} (hd : d'.texts.Extends d.texts) :
    d'.IsPlaced keys ∧ d'.reading keys = d.reading keys := by
  refine ⟨⟨Nat.lt_of_lt_of_le h.1 hd.size_le, Nat.lt_of_lt_of_le h.2 hd.size_le⟩, ?_⟩
  rw [reading, reading, hd.resolve_eq h.1, hd.resolve_eq h.2]

/-- What a line adds: a pair of places for its reading, and the texts that were there stay where they are. -/
theorem exists_keys_add (d : Draft) (form base tag : String) :
    ∃ keys, (d.add form base tag).entries = addTo form keys d.entries ∧
      (d.add form base tag).texts.Extends d.texts ∧ (d.add form base tag).IsPlaced keys ∧
      (d.add form base tag).reading keys = .of base tag := by
  have hbase := Text.Interner.lt_size_intern d.texts base
  have htag := Text.Interner.lt_size_intern (d.texts.intern base).2 tag
  have hstays := Text.Interner.extends_intern (d.texts.intern base).2 tag
  refine ⟨((d.texts.intern base).1, ((d.texts.intern base).2.intern tag).1), rfl, ?_, ?_, ?_⟩
  · exact hstays.trans (Text.Interner.extends_intern d.texts base)
  · exact ⟨Nat.lt_of_lt_of_le hbase hstays.size_le, htag⟩
  · show Reading.of _ _ = Reading.of base tag
    congr 1
    · exact (hstays.resolve_eq hbase).trans (Text.Interner.resolve_intern d.texts base)
    · exact Text.Interner.resolve_intern _ tag

/-- The entries of a draft, with the texts put in, hold what was added. -/
structure Holds (d : Draft) (added : List (String × Reading)) : Prop where
  placed : ∀ entry ∈ d.entries, ∀ keys ∈ entry.2, d.IsPlaced keys
  collects : Collects d.finish.entries added

theorem holds_empty : empty.Holds [] where
  placed := fun _ h => nomatch h
  collects := Collects.nil

theorem Holds.add (h : d.Holds added) (form base tag : String) :
    (d.add form base tag).Holds (added ++ [(form, .of base tag)]) := by
  obtain ⟨keys, hentries, hstays, hkeys, hreading⟩ := exists_keys_add d form base tag
  have hplaced : ∀ entry ∈ d.entries, ∀ old ∈ entry.2, (d.add form base tag).IsPlaced old := fun entry hentry old hold =>
    ((h.placed entry hentry old hold).extends hstays).1
  constructor
  · rw [hentries]
    exact forall_items_addTo form hkeys hplaced
  · have hsame : d.entries.map (Prod.map id (List.map (d.add form base tag).reading)) = d.finish.entries := by
      refine List.map_congr_left fun entry hentry => Prod.ext rfl (List.map_congr_left fun old hold => ?_)
      exact ((h.placed entry hentry old hold).extends hstays).2
    have hfinish : (d.add form base tag).finish.entries = addTo form (.of base tag) d.finish.entries := by
      rw [← hsame, ← hreading, ← map_addTo, ← hentries]
      · rfl
      · exact fun entry hentry old hold => reading_inj (hplaced entry hentry old hold) hkeys
    rw [hfinish]
    exact h.collects.addTo form (.of base tag)

end Draft

/-! ## Lines -/

/-- A line that is read: it is not blank and starts with no number sign. -/
def Counts (line : List Char) : Prop := (∃ c ∈ line, Unicode.isWhitespace c = false) ∧ line.head? ≠ some '#'

instance : DecidablePred Counts := fun line =>
  @instDecidableAnd _ _ (List.decidableBEx (Unicode.isWhitespace · = false) line) inferInstance

/-- The parts between the tabs, without the carriage returns behind the line. -/
def fields (line : List Char) : List (List Char) := Text.splitAtChar '\t' (lineContent line)

def Malformed (line : List Char) : Prop := Counts line ∧ (fields line).length ≠ 3

instance : DecidablePred Malformed := fun _ => inferInstanceAs (Decidable (_ ∧ _))

/-- The form and the reading that a line gives. -/
def given? (line : List Char) : Option (String × Reading) :=
  if Counts line then
    match fields line with
    | [form, base, tag] => some (String.ofList form, .of (String.ofList base) (String.ofList tag))
    | _ => none
  else none

theorem exists_eq_lineContent_append (line : List Char) :
    ∃ returns, line = lineContent line ++ returns ∧ ∀ c ∈ returns, c = '\r' := by
  refine ⟨(line.reverse.takeWhile (· == '\r')).reverse, ?_, ?_⟩
  · rw [lineContent, Text.dropTrailing, ← List.reverse_append, List.takeWhile_append_dropWhile, List.reverse_reverse]
  · intro c hc
    exact eq_of_beq (List.all_eq_true.mp List.all_takeWhile c (List.mem_reverse.mp hc))

/-- Carriage returns make no difference to what is skipped. -/
theorem isSkipped_lineContent (line : List Char) : isSkipped (lineContent line) = true ↔ ¬Counts line := by
  obtain ⟨returns, hline, hreturns⟩ := exists_eq_lineContent_append line
  have hblank (c : Char) (hc : c ∈ returns) : Unicode.isWhitespace c = true := by
    rw [hreturns c hc]
    decide +kernel
  have hall : (∃ c ∈ line, Unicode.isWhitespace c = false) ↔ ∃ c ∈ lineContent line, Unicode.isWhitespace c = false := by
    constructor
    · rintro ⟨c, hc, hvisible⟩
      rw [hline, List.mem_append] at hc
      rcases hc with hc | hc
      · exact ⟨c, hc, hvisible⟩
      · rw [hblank c hc] at hvisible
        cases hvisible
    · rintro ⟨c, hc, hvisible⟩
      exact ⟨c, hline ▸ List.mem_append_left returns hc, hvisible⟩
  cases hcontent : lineContent line with
  | nil =>
    rw [hcontent] at hall
    simp [isSkipped, Counts, hall]
  | cons c content =>
    have hhead : line.head? = some c := by rw [hline, hcontent]; rfl
    rw [Counts, hall, hhead, hcontent, isSkipped, Bool.or_eq_true, List.all_eq_true, List.head?_cons, beq_iff_eq]
    by_cases hhash : c = '#'
    · simp [hhash]
    · simp [hhash]

namespace Draft

variable {d : Draft} {added : List (String × Reading)} {line : List Char}

theorem addLine_of_malformed (d : Draft) (number : Nat) (h : Malformed line) :
    d.addLine number line = .error (.malformedLine number (String.ofList (lineContent line))) := by
  obtain ⟨hcounts, hlength⟩ := h
  have hread : ¬isSkipped (lineContent line) = true := fun hskip => (isSkipped_lineContent line).mp hskip hcounts
  simp only [addLine, if_neg hread]
  split
  · rename_i form base tag hfields
    exact absurd (congrArg List.length hfields) hlength
  · rfl

theorem Holds.addLine (hd : d.Holds added) (number : Nat) (h : ¬Malformed line) :
    ∃ d', d.addLine number line = .ok d' ∧ d'.Holds (added ++ (given? line).toList) := by
  by_cases hcounts : Counts line
  · have hread : ¬isSkipped (lineContent line) = true := fun hskip => (isSkipped_lineContent line).mp hskip hcounts
    have hlength : (fields line).length = 3 := Decidable.byContradiction fun hlength => h ⟨hcounts, hlength⟩
    obtain ⟨form, base, tag, hfields⟩ := List.length_eq_three.mp hlength
    have hsplit : Text.splitAtChar '\t' (lineContent line) = [form, base, tag] := hfields
    have hentry : given? line = some (String.ofList form, .of (String.ofList base) (String.ofList tag)) := by
      simp only [given?, if_pos hcounts, hfields]
    rw [hentry]
    refine ⟨_, ?_, hd.add (String.ofList form) (String.ofList base) (String.ofList tag)⟩
    simp only [Draft.addLine, if_neg hread, hsplit]
  · have hskip := (isSkipped_lineContent line).mpr hcounts
    refine ⟨d, ?_, ?_⟩
    · simp only [Draft.addLine, if_pos hskip]
    · simpa only [given?, if_neg hcounts, Option.toList_none, List.append_nil] using hd

variable {lines : List (List Char)}

theorem Holds.addLines (hd : d.Holds added) (number : Nat) (h : ∀ line ∈ lines, ¬Malformed line) :
    ∃ d', d.addLines number (lines.map some) = .ok d' ∧ d'.Holds (added ++ lines.filterMap given?) := by
  induction lines generalizing d added number with
  | nil => exact ⟨d, rfl, by simpa using hd⟩
  | cons line rest ih =>
    obtain ⟨hline, hrest⟩ := List.forall_mem_cons.mp h
    obtain ⟨next, hnext, hholds⟩ := hd.addLine number hline
    obtain ⟨last, hlast, hall⟩ := ih hholds (number + 1) hrest
    refine ⟨last, ?_, ?_⟩
    · rw [List.map_cons, Draft.addLines, hnext]
      exact hlast
    · have hentries : (line :: rest).filterMap given? = (given? line).toList ++ rest.filterMap given? := by
        rw [List.filterMap_cons]
        cases given? line <;> rfl
      rwa [hentries, ← List.append_assoc]

/-- The first malformed line is the fault, with its number. -/
theorem Holds.addLines_of_malformed {before after : List (List Char)} (hd : d.Holds added) (number : Nat)
    (hbefore : ∀ earlier ∈ before, ¬Malformed earlier) (h : Malformed line) :
    d.addLines number ((before ++ line :: after).map some) =
      .error (.malformedLine (number + before.length) (String.ofList (lineContent line))) := by
  induction before generalizing d added number with
  | nil =>
    rw [List.nil_append, List.map_cons, Draft.addLines, addLine_of_malformed d number h]
    rfl
  | cons earlier before ih =>
    obtain ⟨hearlier, hrest⟩ := List.forall_mem_cons.mp hbefore
    obtain ⟨next, hnext, hholds⟩ := hd.addLine number hearlier
    rw [List.cons_append, List.map_cons, Draft.addLines, hnext, List.length_cons, Nat.add_comm before.length,
      ← Nat.add_assoc]
    exact ih hholds (number + 1) hrest

end Draft

theorem exists_first_malformed {lines : List (List Char)} (h : ¬∀ line ∈ lines, ¬Malformed line) :
    ∃ before line after, lines = before ++ line :: after ∧ (∀ earlier ∈ before, ¬Malformed earlier) ∧ Malformed line := by
  cases hfirst : lines.find? Malformed with
  | none => exact absurd (by simpa using hfirst) h
  | some line =>
    obtain ⟨hline, before, after, hlines, hbefore⟩ := List.find?_eq_some_iff_append.mp hfirst
    exact ⟨before, line, after, hlines, by simpa using hbefore, by simpa using hline⟩

/-- A text is no dictionary exactly if a line is malformed, and the first one is named. Otherwise a form has the readings
of its lines in their order, each one once, and the size counts the forms. -/
theorem ofText_collects (data : String) :
    (∀ e, ofText data = .error e ↔
      ∃ before line after, Text.splitAtChar '\n' data.toList = before ++ line :: after ∧
        (∀ earlier ∈ before, ¬Malformed earlier) ∧ Malformed line ∧
          e = .malformedLine (before.length + 1) (String.ofList (lineContent line))) ∧
    ((∀ line ∈ Text.splitAtChar '\n' data.toList, ¬Malformed line) → ∃ d, ofText data = .ok d ∧
      (∀ form, d.lookup form =
        ((((Text.splitAtChar '\n' data.toList).filterMap given?).filter (·.1 = form)).map Prod.snd).eraseDups) ∧
      d.size = (((Text.splitAtChar '\n' data.toList).filterMap given?).map Prod.fst).eraseDups.length) := by
  generalize hlines : Text.splitAtChar '\n' data.toList = lines
  have hread : ofText data = (Draft.empty.addLines 1 (lines.map some)).map Draft.finish := by
    rw [← hlines, ofText, ofLines]
  have hfail {before : List (List Char)} {line after} (hsplit : lines = before ++ line :: after)
      (hbefore : ∀ earlier ∈ before, ¬Malformed earlier) (hline : Malformed line) :
      ofText data = .error (.malformedLine (before.length + 1) (String.ofList (lineContent line))) := by
    rw [hread, hsplit, Draft.holds_empty.addLines_of_malformed 1 hbefore hline, Nat.add_comm]
    rfl
  have hload (hall : ∀ line ∈ lines, ¬Malformed line) :
      ∃ d : Draft, ofText data = .ok d.finish ∧ d.Holds (lines.filterMap given?) := by
    obtain ⟨d, hd, hholds⟩ := Draft.holds_empty.addLines 1 hall
    exact ⟨d, by rw [hread, hd]; rfl, hholds⟩
  constructor
  · intro e
    constructor
    · intro he
      by_cases hall : ∀ line ∈ lines, ¬Malformed line
      · obtain ⟨d, hd, -⟩ := hload hall
        rw [hd] at he
        cases he
      · obtain ⟨before, line, after, hsplit, hbefore, hline⟩ := exists_first_malformed hall
        have hfirst := hfail hsplit hbefore hline
        exact ⟨before, line, after, hsplit, hbefore, hline, Except.error.inj (he.symm.trans hfirst)⟩
    · rintro ⟨before, line, after, hsplit, hbefore, hline, rfl⟩
      exact hfail hsplit hbefore hline
  · intro hall
    obtain ⟨d, hd, hholds⟩ := hload hall
    refine ⟨d.finish, hd, hholds.collects.items, ?_⟩
    rw [← hholds.collects.forms, List.length_map]
    rfl

/-- A form in three lines, two of which say the same, among lines that do not count. -/
theorem ofText_collects_threeLines :
    (∀ line ∈ Text.splitAtChar '\n' "b\tbe\tV\r\n#b\n \nb\tbe\tN\nb\tbe\tV".toList, ¬Malformed line) ∧
      ∃ d, ofText "b\tbe\tV\r\n#b\n \nb\tbe\tN\nb\tbe\tV" = .ok d ∧
        d.lookup "b" = [.of "be" "V", .of "be" "N"] ∧ d.lookup "be" = [] ∧ d.size = 1 := by
  have hlines : ∀ line ∈ Text.splitAtChar '\n' "b\tbe\tV\r\n#b\n \nb\tbe\tN\nb\tbe\tV".toList, ¬Malformed line := by
    decide +kernel
  obtain ⟨d, hd, hlookup, hsize⟩ := (ofText_collects _).2 hlines
  refine ⟨hlines, d, hd, ?_, ?_, ?_⟩
  · rw [hlookup]
    decide +kernel
  · rw [hlookup]
    decide +kernel
  · rw [hsize]
    decide +kernel

end GrammarCheck.Dictionary
