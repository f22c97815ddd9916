import GrammarCheck.Template
import Mathlib.Data.List.TakeWhile

/-! What is recognised in the source of a template. From left to right, and one behind the other, these are numbers after
a backslash, the marks of suggestions, and tags; whatever starts none of them is a character of its own. -/

namespace GrammarCheck.Template

/-- A lexeme as it is written. -/
def Lexeme.written : Lexeme → List Char
  | .char c => [c]
  | .number digits => '\\' :: digits
  | .openSuggestion => openMark
  | .closeSuggestion => closeMark
  | .tag source => tagMark ++ source ++ ['/', '>']

/-- A lexeme of more than one character, in front of a text. A number takes all the digits there are, and a tag ends
with the first closing bracket; its name is a word of its own. -/
inductive IsMark : Lexeme → List Char → Prop
  | number {digits rest} (hne : digits ≠ []) (hdigits : ∀ c ∈ digits, Unicode.isDecimalDigit c = true)
      (hrest : ∀ c ∈ rest.head?, Unicode.isDecimalDigit c = false) : IsMark (.number digits) rest
  | openSuggestion {rest} : IsMark .openSuggestion rest
  | closeSuggestion {rest} : IsMark .closeSuggestion rest
  | tag {source rest} (hword : ∀ c ∈ source.head?, Unicode.isWord c = false) (hclosed : '>' ∉ source) :
      IsMark (.tag source) rest

/-- A text is scanned into lexemes: a mark where one starts, and a character where none does. -/
inductive Scanned : List Char → List Lexeme → Prop
  | nil : Scanned [] []
  | mark {l rest ls} (hmark : IsMark l rest) (hrest : Scanned rest ls) : Scanned (l.written ++ rest) (l :: ls)
  | char {c rest ls} (hnone : ∀ l after, IsMark l after → c :: rest ≠ l.written ++ after) (hrest : Scanned rest ls) :
      Scanned (c :: rest) (.char c :: ls)

theorem takeWhile_append_of_stops {α : Type} {p : α → Bool} {front rest : List α} (hfront : ∀ c ∈ front, p c = true)
    (hrest : ∀ c ∈ rest.head?, p c = false) :
    (front ++ rest).takeWhile p = front ∧ (front ++ rest).dropWhile p = rest := by
  have hstop : rest.takeWhile p = [] ∧ rest.dropWhile p = rest := by
    cases rest with
    | nil => exact ⟨rfl, rfl⟩
    | cons c rest =>
      have hc : p c = false := hrest c rfl
      simp [hc]
  rw [List.takeWhile_append_of_pos hfront, List.dropWhile_append_of_pos hfront, hstop.1, hstop.2, List.append_nil]
  exact ⟨rfl, rfl⟩

theorem dropStart?_eq_some_iff {mark text rest : List Char} :
    Text.dropStart? mark text = some rest ↔ text = mark ++ rest := by
  constructor
  · exact Text.eq_append_of_dropStart?
  · rintro rfl
    exact Text.dropStart?_append mark rest

theorem tagBody?_eq_some_iff {text source after : List Char} :
    tagBody? text = some (source, after) ↔ '>' ∉ source ∧ text = source ++ '/' :: '>' :: after := by
  constructor
  · intro h
    unfold tagBody? at h
    split at h
    case h_2 => cases h
    case h_1 body closing after' hbody hafter =>
      obtain ⟨rfl, rfl⟩ := Prod.mk.inj (Option.some_inj.mp h)
      have hfront : text.takeWhile (· != '>') = body.reverse ++ ['/'] := by
        rw [← List.reverse_reverse (text.takeWhile (· != '>')), hbody, List.reverse_cons]
      have hclosing : closing = '>' := by
        have hhead := List.head?_dropWhile_not (· != '>') text
        simpa [hafter] using hhead
      have hnot : '>' ∉ text.takeWhile (· != '>') := fun hmem => by simpa using List.mem_takeWhile_imp hmem
      have htext := List.takeWhile_append_dropWhile (p := (· != '>')) (l := text)
      rw [hfront, hafter, hclosing, List.append_assoc] at htext
      rw [hfront] at hnot
      exact ⟨fun hmem => hnot (List.mem_append_left _ hmem), htext.symm⟩
  · rintro ⟨hsource, rfl⟩
    have hall : ∀ c ∈ source ++ ['/'], (c != '>') = true := by
      intro c hc
      rcases List.mem_append.mp hc with hc | hc
      · simpa using fun heq : c = '>' => hsource (heq ▸ hc)
      · rw [List.mem_singleton.mp hc]
        rfl
    have hstop : ∀ c ∈ ('>' :: after).head?, (c != '>') = false := by simp
    obtain ⟨htake, hdrop⟩ := takeWhile_append_of_stops hall hstop
    have hsplit : source ++ '/' :: '>' :: after = source ++ ['/'] ++ '>' :: after := by simp
    unfold tagBody?
    rw [hsplit, htake, hdrop, List.reverse_append]
    simp

theorem startsWithWord_append {source rest : List Char} (h : ∀ c ∈ source.head?, Unicode.isWord c = false) :
    startsWithWord (source ++ '/' :: rest) = false := by
  cases source with
  | nil => exact (by decide : Unicode.isWord '/' = false)
  | cons c source => exact h c rfl

theorem mark?_tagMark_append (rest : List Char) : mark? (tagMark ++ rest) =
    if startsWithWord rest then none else (tagBody? rest).map fun (source, after) => (.tag source, after) := rfl

theorem mark?_of_isMark {l : Lexeme} {after : List Char} (h : IsMark l after) :
    mark? (l.written ++ after) = some (l, after) := by
  cases h with
  | @number digits _ hne hdigits hrest =>
    obtain ⟨htake, hdrop⟩ := takeWhile_append_of_stops hdigits hrest
    show mark? ('\\' :: (digits ++ after)) = _
    simp [mark?, htake, hdrop, hne]
  | openSuggestion => rfl
  | closeSuggestion => rfl
  | @tag source _ hword hclosed =>
    have htext : (Lexeme.tag source).written ++ after = tagMark ++ (source ++ '/' :: '>' :: after) := by
      simp [Lexeme.written]
    have hbody : tagBody? (source ++ '/' :: '>' :: after) = some (source, after) :=
      tagBody?_eq_some_iff.mpr ⟨hclosed, rfl⟩
    rw [htext, mark?_tagMark_append, startsWithWord_append hword, hbody]
    rfl

theorem isWord_head_of_not_startsWithWord {source rest : List Char} (h : startsWithWord (source ++ rest) ≠ true) :
    ∀ c ∈ source.head?, Unicode.isWord c = false := by
  cases source with
  | nil => exact fun c hc => nomatch hc
  | cons c source =>
    intro c' hc'
    obtain rfl : c = c' := Option.some_inj.mp hc'
    exact eq_false_of_ne_true h

theorem isMark_of_mark? {text after : List Char} {l : Lexeme} (h : mark? text = some (l, after)) :
    IsMark l after ∧ text = l.written ++ after := by
  unfold mark? at h
  split at h
  case h_1 rest =>
    dsimp only at h
    split at h
    case isTrue => cases h
    case isFalse hne =>
      obtain ⟨rfl, rfl⟩ := Prod.mk.inj (Option.some_inj.mp h)
      rw [List.isEmpty_iff] at hne
      refine ⟨.number hne (fun c hc => List.mem_takeWhile_imp hc) fun c hc => ?_, ?_⟩
      · have hhead := List.head?_dropWhile_not Unicode.isDecimalDigit rest
        rw [Option.mem_def.mp hc] at hhead
        simpa using hhead
      · exact congrArg ('\\' :: ·) List.takeWhile_append_dropWhile.symm
  case h_2 rest =>
    split at h
    case h_1 hopen =>
      obtain ⟨rfl, rfl⟩ := Prod.mk.inj (Option.some_inj.mp h)
      exact ⟨.openSuggestion, dropStart?_eq_some_iff.mp hopen⟩
    case h_2 hclose =>
      obtain ⟨rfl, rfl⟩ := Prod.mk.inj (Option.some_inj.mp h)
      exact ⟨.closeSuggestion, dropStart?_eq_some_iff.mp hclose⟩
    case h_3 rest' _ _ htag =>
      split at h
      case isTrue => cases h
      case isFalse hword =>
        obtain ⟨⟨source, after'⟩, hbody, hown⟩ := Option.map_eq_some_iff.mp h
        obtain ⟨rfl, rfl⟩ := Prod.mk.inj hown
        obtain ⟨hclosed, rfl⟩ := tagBody?_eq_some_iff.mp hbody
        refine ⟨.tag (isWord_head_of_not_startsWithWord hword) hclosed, ?_⟩
        rw [dropStart?_eq_some_iff.mp htag]
        simp [Lexeme.written]
    case h_4 => cases h
  case h_3 => cases h

theorem mark?_eq_some_iff {text after : List Char} {l : Lexeme} :
    mark? text = some (l, after) ↔ IsMark l after ∧ text = l.written ++ after := by
  constructor
  · exact isMark_of_mark?
  · rintro ⟨hmark, rfl⟩
    exact mark?_of_isMark hmark

theorem mark?_eq_none_iff {text : List Char} :
    mark? text = none ↔ ∀ l after, IsMark l after → text ≠ l.written ++ after := by
  constructor
  · intro h l after hmark htext
    rw [htext, mark?_of_isMark hmark] at h
    cases h
  · intro h
    cases hmark : mark? text with
    | none => rfl
    | some found =>
      obtain ⟨hown, htext⟩ := mark?_eq_some_iff.mp hmark
      exact absurd htext (h _ _ hown)

theorem Lexeme.length_written_pos (l : Lexeme) : 0 < l.written.length := by
  cases l with
  | char c => exact Nat.one_pos
  | number digits => exact Nat.succ_pos _
  | openSuggestion => decide
  | closeSuggestion => decide
  | tag source =>
    rw [written, List.length_append]
    exact Nat.add_pos_right _ (Nat.succ_pos _)

theorem length_written_append (l : Lexeme) (after : List Char) : after.length < (l.written ++ after).length := by
  rw [List.length_append]
  exact Nat.lt_add_of_pos_left l.length_written_pos

theorem lexemes_of_mark? {text after : List Char} {l : Lexeme} (h : mark? text = some (l, after)) (n : Nat) :
    lexemes (n + 1) text = l :: lexemes n after := by
  cases text with
  | nil => cases h
  | cons c rest => rw [lexemes, h]

theorem lexemes_of_mark?_eq_none {c : Char} {rest : List Char} (h : mark? (c :: rest) = none) (n : Nat) :
    lexemes (n + 1) (c :: rest) = .char c :: lexemes n rest := by
  rw [lexemes, h]

theorem scanned_lexemes {n : Nat} {text : List Char} (h : text.length ≤ n) : Scanned text (lexemes n text) := by
  induction n generalizing text with
  | zero =>
    obtain rfl := List.eq_nil_of_length_eq_zero (Nat.le_zero.mp h)
    exact .nil
  | succ n ih =>
    cases text with
    | nil => exact .nil
    | cons c rest =>
      cases hmark : mark? (c :: rest) with
      | none =>
        rw [lexemes_of_mark?_eq_none hmark]
        exact .char (mark?_eq_none_iff.mp hmark) (ih (Nat.le_of_succ_le_succ h))
      | some found =>
        obtain ⟨l, after⟩ := found
        obtain ⟨hown, htext⟩ := mark?_eq_some_iff.mp hmark
        rw [lexemes_of_mark? hmark]
        rw [htext] at h ⊢
        exact .mark hown (ih (Nat.le_of_lt_succ (Nat.lt_of_lt_of_le (length_written_append l after) h)))

namespace Scanned

variable {text : List Char} {ls : List Lexeme}

/-- There is only one way to scan a text. -/
theorem eq_lexemes (h : Scanned text ls) {n : Nat} (hn : text.length ≤ n) : ls = lexemes n text := by
  induction h generalizing n with
  | nil => cases n <;> rfl
  | @mark l rest ls hmark _ ih =>
    have hlength := Nat.lt_of_lt_of_le (length_written_append l rest) hn
    obtain ⟨n, rfl⟩ := Nat.exists_eq_succ_of_ne_zero (Nat.ne_zero_of_lt hlength)
    rw [lexemes_of_mark? (mark?_of_isMark hmark), ← ih (Nat.le_of_lt_succ hlength)]
  | char hnone _ ih =>
    obtain ⟨n, rfl⟩ := Nat.exists_eq_succ_of_ne_zero (Nat.ne_zero_of_lt hn)
    rw [lexemes_of_mark?_eq_none (mark?_eq_none_iff.mpr hnone), ← ih (Nat.le_of_succ_le_succ hn)]

/-- Nothing of a text is lost, and nothing is read twice. -/
theorem flatMap_written (h : Scanned text ls) : ls.flatMap Lexeme.written = text := by
  induction h with
  | nil => rfl
  | mark _ _ ih => rw [List.flatMap_cons, ih]
  | char _ _ ih =>
    rw [List.flatMap_cons, ih]
    rfl

end Scanned

end GrammarCheck.Template
