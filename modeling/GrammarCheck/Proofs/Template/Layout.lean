import GrammarCheck.Proofs.Success
import GrammarCheck.Proofs.Template.Scanning

/-! How a template is laid out. Its source is read if each reference can be and if the marks of suggestions open and
close in turns. It then is a row of parts, each a lexeme or a suggestion, and the template holds the same, with a piece
for every run of characters. -/

namespace GrammarCheck.Template

open Success

namespace Lexeme

def isSuggestionMark : Lexeme → Bool
  | .openSuggestion => true
  | .closeSuggestion => true
  | _ => false

@[simp] theorem isSuggestionMark_openSuggestion : openSuggestion.isSuggestionMark = true := rfl

@[simp] theorem isSuggestionMark_closeSuggestion : closeSuggestion.isSuggestionMark = true := rfl

/-- What a lexeme stands for. A reference may be one that cannot be read. -/
def piece? : Lexeme → Option Piece
  | .char c => some (.text (String.singleton c))
  | .number digits => (Text.countOfDigits? digits).map fun n => .reference { position := n }
  | .tag source => (tagReference source).toOption.map .reference
  | .openSuggestion => none
  | .closeSuggestion => none

def IsReadable (l : Lexeme) : Prop := l.isSuggestionMark = true ∨ ∃ p, l.piece? = some p

end Lexeme

/-- The marks of suggestions open and close in turns. -/
def Paired (ls : List Lexeme) : Prop :=
  ∃ n, ls.filter (·.isSuggestionMark) = (List.replicate n [.openSuggestion, .closeSuggestion]).flatten

/-- A lexeme outside suggestions, or a suggestion with what stands in it. -/
inductive Part where
  | lexeme (l : Lexeme)
  | suggestion (content : List Lexeme)

namespace Part

def lexemes : Part → List Lexeme
  | .lexeme l => [l]
  | .suggestion content => .openSuggestion :: (content ++ [.closeSuggestion])

/-- What stands in a part besides marks. -/
def content : Part → List Lexeme
  | .lexeme l => [l]
  | .suggestion content => content

def IsReadable (part : Part) : Prop := ∀ l ∈ part.content, ∃ p, l.piece? = some p

def segment? : Part → Option Segment
  | .lexeme l => l.piece?.map .piece
  | .suggestion content => some (.suggestion (content.filterMap Lexeme.piece?))

end Part

/-- A row of lexemes is divided into parts: a suggestion goes from its mark to the next closing one. -/
inductive Divided : List Lexeme → List Part → Prop
  | nil : Divided [] []
  | lexeme {l rest parts} (hplain : l.isSuggestionMark = false) (hrest : Divided rest parts) :
      Divided (l :: rest) (.lexeme l :: parts)
  | suggestion {content rest parts} (hplain : ∀ l ∈ content, l.isSuggestionMark = false)
      (hrest : Divided rest parts) :
      Divided (.openSuggestion :: (content ++ .closeSuggestion :: rest)) (.suggestion content :: parts)

/-- A piece for each character. -/
def Piece.split : Piece → List Piece
  | .text s => s.toList.map fun c => .text (String.singleton c)
  | .reference r => [.reference r]

def Segment.split : Segment → List Segment
  | .piece p => (Piece.split p).map .piece
  | .suggestion pieces => [.suggestion (pieces.flatMap Piece.split)]

/-- A draft with a piece for each character, in the order of the source. -/
structure Outline where
  segments : List Segment
  suggestion : Option (List Piece)

namespace Outline

def addPiece (o : Outline) (p : Piece) : Outline :=
  match o.suggestion with
  | none => { o with segments := o.segments ++ [.piece p] }
  | some pieces => { o with suggestion := some (pieces ++ [p]) }

def add (o : Outline) (l : Lexeme) : Option Outline :=
  match l, o.suggestion with
  | .openSuggestion, none => some { o with suggestion := some [] }
  | .closeSuggestion, some pieces => some ⟨o.segments ++ [.suggestion pieces], none⟩
  | l, _ => l.piece?.map o.addPiece

variable {o : Outline} {l : Lexeme} {pieces : List Piece}

theorem add_open (h : o.suggestion = none) : o.add .openSuggestion = some { o with suggestion := some [] } := by
  simp [add, h]

theorem add_open_of_some (h : o.suggestion = some pieces) : o.add .openSuggestion = none := by
  simp [add, h, Lexeme.piece?]

theorem add_close (h : o.suggestion = some pieces) :
    o.add .closeSuggestion = some ⟨o.segments ++ [.suggestion pieces], none⟩ := by
  simp [add, h]

theorem add_close_of_none (h : o.suggestion = none) : o.add .closeSuggestion = none := by
  simp [add, h, Lexeme.piece?]

theorem add_of_plain (h : l.isSuggestionMark = false) : o.add l = l.piece?.map o.addPiece := by
  cases l with
  | openSuggestion => cases h
  | closeSuggestion => cases h
  | _ => rfl

end Outline

namespace Draft

def outline (d : Draft) : Outline :=
  let later : List Piece := d.text.reverse.map fun c => .text (String.singleton c)
  match d.suggestion with
  | none => ⟨d.segments.reverse.flatMap Segment.split ++ later.map .piece, none⟩
  | some pieces => ⟨d.segments.reverse.flatMap Segment.split, some (pieces.reverse.flatMap Piece.split ++ later)⟩

theorem outline_flush (d : Draft) : d.flush.outline = d.outline := by
  obtain ⟨segments, suggestion, text⟩ := d
  cases text with
  | nil => rfl
  | cons c rest => cases suggestion <;> simp [flush, addPiece, outline, Segment.split, Piece.split]

theorem text_flush (d : Draft) : d.flush.text = [] := by
  unfold flush
  split
  case isTrue h => exact List.isEmpty_iff.mp h
  case isFalse => rfl

theorem outline_addChar (d : Draft) (c : Char) :
    { d with text := c :: d.text }.outline = d.outline.addPiece (.text (String.singleton c)) := by
  obtain ⟨segments, suggestion, text⟩ := d
  cases suggestion <;> simp [outline, Outline.addPiece]

theorem outline_addReference {d : Draft} (h : d.text = []) (r : Reference) :
    (d.addPiece (.reference r)).outline = d.outline.addPiece (.reference r) := by
  obtain ⟨segments, suggestion, text⟩ := d
  obtain rfl : text = [] := h
  cases suggestion <;> simp [outline, addPiece, Outline.addPiece, Segment.split, Piece.split]

theorem suggestion_outline (d : Draft) : d.outline.suggestion.isSome = d.suggestion.isSome := by
  obtain ⟨segments, suggestion, text⟩ := d
  cases suggestion <;> rfl

theorem suggestion_flush (d : Draft) : d.flush.suggestion.isSome = d.suggestion.isSome := by
  rw [← suggestion_outline, outline_flush, suggestion_outline]

theorem outline_open {d : Draft} (htext : d.text = []) (h : d.suggestion = none) :
    { d with suggestion := some [] }.outline = { d.outline with suggestion := some [] } := by
  obtain ⟨segments, suggestion, text⟩ := d
  obtain rfl : text = [] := htext
  obtain rfl : suggestion = none := h
  simp [outline]

theorem outline_close {d : Draft} (htext : d.text = []) {pieces : List Piece} (h : d.suggestion = some pieces) :
    d.outline.suggestion = some (pieces.reverse.flatMap Piece.split) ∧
      { d with suggestion := none, segments := .suggestion pieces.reverse :: d.segments }.outline =
        ⟨d.outline.segments ++ [.suggestion (pieces.reverse.flatMap Piece.split)], none⟩ := by
  obtain ⟨segments, suggestion, text⟩ := d
  obtain rfl : text = [] := htext
  obtain rfl : suggestion = some pieces := h
  simp [outline, Segment.split]

theorem outline_add_openSuggestion (d : Draft) :
    (d.add .openSuggestion).toOption.map outline = d.outline.add .openSuggestion := by
  cases hsuggestion : d.suggestion with
  | none =>
    have hflush : d.flush.suggestion = none := by
      simpa [hsuggestion] using d.suggestion_flush
    have houtline : d.outline.suggestion = none := by
      simpa [hsuggestion] using d.suggestion_outline
    have hopen := outline_open d.text_flush hflush
    rw [outline_flush] at hopen
    have hown : d.add .openSuggestion = .ok { d.flush with suggestion := some [] } := by simp [add, hsuggestion]
    rw [hown, Outline.add_open houtline]
    exact congrArg some hopen
  | some pieces =>
    obtain ⟨pieces', houtline⟩ : ∃ pieces', d.outline.suggestion = some pieces' := by
      rw [← Option.isSome_iff_exists, suggestion_outline, hsuggestion]
      rfl
    have hown : d.add .openSuggestion = .error .nestedSuggestion := by simp [add, hsuggestion]
    rw [hown, Outline.add_open_of_some houtline]
    rfl

theorem outline_add_closeSuggestion (d : Draft) :
    (d.add .closeSuggestion).toOption.map outline = d.outline.add .closeSuggestion := by
  cases hflush : d.flush.suggestion with
  | none =>
    have houtline : d.outline.suggestion = none := by
      rw [← outline_flush]
      simpa [hflush] using d.flush.suggestion_outline
    have hown : d.add .closeSuggestion = .error .straySuggestionEnd := by simp [add, hflush]
    rw [hown, Outline.add_close_of_none houtline]
    rfl
  | some pieces =>
    obtain ⟨houtline, hclose⟩ := outline_close d.text_flush hflush
    rw [outline_flush] at houtline hclose
    have hown : d.add .closeSuggestion =
        .ok { d.flush with suggestion := none, segments := .suggestion pieces.reverse :: d.flush.segments } := by
      simp [add, hflush]
    rw [hown, Outline.add_close houtline]
    exact congrArg some hclose

/-- Reading a lexeme is the same with a piece for each character. -/
theorem outline_add (d : Draft) (l : Lexeme) : (d.add l).toOption.map outline = d.outline.add l := by
  have hreference (r : Reference) :
      (d.flush.addPiece (.reference r)).outline = d.outline.addPiece (.reference r) := by
    rw [outline_addReference d.text_flush, outline_flush]
  cases l with
  | char c => exact congrArg some (outline_addChar d c)
  | number digits =>
    have hadd : d.outline.add (.number digits) =
        (Text.countOfDigits? digits).map fun n => d.outline.addPiece (.reference { position := n }) := by
      simp [Outline.add, Lexeme.piece?, Function.comp_def]
    rw [hadd, add]
    cases Text.countOfDigits? digits with
    | none => rfl
    | some n => exact congrArg some (hreference _)
  | tag source =>
    have hadd : d.outline.add (.tag source) =
        (tagReference source).toOption.map fun r => d.outline.addPiece (.reference r) := by
      simp [Outline.add, Lexeme.piece?, Function.comp_def]
    rw [hadd, add]
    cases tagReference source with
    | error e => rfl
    | ok r => exact congrArg some (hreference r)
  | openSuggestion => exact d.outline_add_openSuggestion
  | closeSuggestion => exact d.outline_add_closeSuggestion

/-- Reading a row of lexemes is the same with a piece for each character. -/
theorem outline_foldlM (d : Draft) (ls : List Lexeme) :
    (ls.foldlM add d).toOption.map outline = ls.foldlM Outline.add d.outline := by
  induction ls generalizing d with
  | nil => rfl
  | cons l rest ih =>
    rw [List.foldlM_cons, List.foldlM_cons, ← outline_add]
    cases d.add l with
    | error e => rfl
    | ok d' => exact ih d'

end Draft

section Paired

variable {l : Lexeme} {rest : List Lexeme}

theorem Lexeme.mark_cases (l : Lexeme) :
    l.isSuggestionMark = false ∨ l = .openSuggestion ∨ l = .closeSuggestion := by
  cases l with
  | openSuggestion => exact Or.inr (Or.inl rfl)
  | closeSuggestion => exact Or.inr (Or.inr rfl)
  | _ => exact Or.inl rfl

theorem exists_eq_flatten_replicate_iff {mark : Lexeme} {marks : List Lexeme} :
    (∃ n, mark :: marks = (List.replicate n [Lexeme.openSuggestion, .closeSuggestion]).flatten) ↔
      mark = .openSuggestion ∧
        ∃ n, marks = .closeSuggestion :: (List.replicate n [Lexeme.openSuggestion, .closeSuggestion]).flatten := by
  constructor
  · rintro ⟨n, h⟩
    cases n with
    | zero => cases h
    | succ n =>
      rw [List.replicate_succ, List.flatten_cons] at h
      exact ⟨(List.cons.inj h).1, n, (List.cons.inj h).2⟩
  · rintro ⟨rfl, n, rfl⟩
    exact ⟨n + 1, rfl⟩

theorem paired_cons_of_plain (h : l.isSuggestionMark = false) : Paired (l :: rest) ↔ Paired rest := by
  simp [Paired, h]

theorem paired_open_iff : Paired (.openSuggestion :: rest) ↔ ∃ n, rest.filter (·.isSuggestionMark) =
    .closeSuggestion :: (List.replicate n [Lexeme.openSuggestion, .closeSuggestion]).flatten := by
  have hfilter : (Lexeme.openSuggestion :: rest).filter (·.isSuggestionMark) =
      .openSuggestion :: rest.filter (·.isSuggestionMark) := rfl
  rw [Paired, hfilter, exists_eq_flatten_replicate_iff]
  exact and_iff_right rfl

theorem paired_open_cons_of_plain (h : l.isSuggestionMark = false) :
    Paired (.openSuggestion :: l :: rest) ↔ Paired (.openSuggestion :: rest) := by
  rw [paired_open_iff, paired_open_iff]
  simp [h]

theorem paired_open_close_iff : Paired (.openSuggestion :: .closeSuggestion :: rest) ↔ Paired rest := by
  rw [paired_open_iff]
  simp [Paired, List.filter_cons]

theorem not_paired_close : ¬Paired (.closeSuggestion :: rest) := by
  have hfilter : (Lexeme.closeSuggestion :: rest).filter (·.isSuggestionMark) =
      .closeSuggestion :: rest.filter (·.isSuggestionMark) := rfl
  rw [Paired, hfilter, exists_eq_flatten_replicate_iff]
  rintro ⟨h, -⟩
  cases h

theorem not_paired_open_open : ¬Paired (.openSuggestion :: .openSuggestion :: rest) := by
  rw [paired_open_iff]
  rintro ⟨n, h⟩
  cases h

theorem not_paired_open : ¬Paired [.openSuggestion] := by
  rw [paired_open_iff]
  rintro ⟨n, h⟩
  cases h

/-- Lexemes in which marks come in turns are divided into parts. If a suggestion is open at their start, they begin with
what is left of it. -/
theorem exists_divided (ls : List Lexeme) :
    (Paired ls → ∃ parts, Divided ls parts) ∧
      (Paired (.openSuggestion :: ls) → ∃ (content rest : List Lexeme) (parts : List Part),
        (∀ l ∈ content, l.isSuggestionMark = false) ∧ Divided rest parts ∧ ls = content ++ .closeSuggestion :: rest) := by
  induction ls with
  | nil => exact ⟨fun _ => ⟨[], .nil⟩, fun h => absurd h not_paired_open⟩
  | cons l rest ih =>
    obtain ⟨houtside, hinside⟩ := ih
    rcases l.mark_cases with hplain | rfl | rfl
    · constructor
      · intro h
        obtain ⟨parts, hparts⟩ := houtside ((paired_cons_of_plain hplain).mp h)
        exact ⟨.lexeme l :: parts, .lexeme hplain hparts⟩
      · intro h
        obtain ⟨content, after, parts, hcontent, hparts, rfl⟩ := hinside ((paired_open_cons_of_plain hplain).mp h)
        exact ⟨l :: content, after, parts, List.forall_mem_cons.mpr ⟨hplain, hcontent⟩, hparts, rfl⟩
    · refine ⟨fun h => ?_, fun h => absurd h not_paired_open_open⟩
      obtain ⟨content, after, parts, hcontent, hparts, rfl⟩ := hinside h
      exact ⟨.suggestion content :: parts, .suggestion hcontent hparts⟩
    · refine ⟨fun h => absurd h not_paired_close, fun h => ?_⟩
      obtain ⟨parts, hparts⟩ := houtside (paired_open_close_iff.mp h)
      exact ⟨[], rest, parts, List.forall_mem_nil _, hparts, rfl⟩

end Paired

namespace Divided

variable {ls : List Lexeme} {parts parts' : List Part}

theorem eq_of_append_close {content content' rest rest' : List Lexeme}
    (hplain : ∀ l ∈ content, l.isSuggestionMark = false) (hplain' : ∀ l ∈ content', l.isSuggestionMark = false)
    (h : content ++ .closeSuggestion :: rest = content' ++ .closeSuggestion :: rest') :
    content = content' ∧ rest = rest' := by
  have hstop (rest : List Lexeme) :
      ∀ l ∈ (Lexeme.closeSuggestion :: rest).head?, (!l.isSuggestionMark) = false := by
    simp
  have hfront {content : List Lexeme} (hplain : ∀ l ∈ content, l.isSuggestionMark = false) :
      ∀ l ∈ content, (!l.isSuggestionMark) = true := by
    simpa using hplain
  have hsplit := takeWhile_append_of_stops (hfront hplain) (hstop rest)
  have hsplit' := takeWhile_append_of_stops (hfront hplain') (hstop rest')
  rw [h] at hsplit
  exact ⟨hsplit.1.symm.trans hsplit'.1, (List.cons.inj (hsplit.2.symm.trans hsplit'.2)).2⟩

/-- There is only one way to divide lexemes. -/
theorem unique (h : Divided ls parts) (h' : Divided ls parts') : parts' = parts := by
  induction h generalizing parts' with
  | nil =>
    cases h' with
    | nil => rfl
  | lexeme hplain hrest ih =>
    cases h' with
    | lexeme _ hrest' => rw [ih hrest']
    | suggestion => cases hplain
  | @suggestion content rest parts hplain hrest ih =>
    generalize hls : Lexeme.openSuggestion :: (content ++ .closeSuggestion :: rest) = ls at h'
    cases h' with
    | nil => cases hls
    | lexeme hplain' =>
      obtain ⟨rfl, -⟩ := List.cons.inj hls
      cases hplain'
    | suggestion hplain' hrest' =>
      obtain ⟨rfl, rfl⟩ := eq_of_append_close hplain hplain' (List.cons.inj hls).2
      rw [ih hrest']

theorem flatMap_lexemes (h : Divided ls parts) : parts.flatMap Part.lexemes = ls := by
  induction h with
  | nil => rfl
  | lexeme _ _ ih => rw [List.flatMap_cons, ih, Part.lexemes, List.singleton_append]
  | suggestion _ _ ih => simp [Part.lexemes, ih]

theorem of_parts (h : ∀ part ∈ parts, ∀ l ∈ part.content, l.isSuggestionMark = false) :
    Divided (parts.flatMap Part.lexemes) parts := by
  induction parts with
  | nil => exact .nil
  | cons part rest ih =>
    obtain ⟨hpart, hrest⟩ := List.forall_mem_cons.mp h
    cases part with
    | lexeme l => exact .lexeme (hpart l (List.mem_singleton_self l)) (ih hrest)
    | suggestion content =>
      have hlexemes : (Part.suggestion content :: rest).flatMap Part.lexemes =
          .openSuggestion :: (content ++ .closeSuggestion :: rest.flatMap Part.lexemes) := by
        simp [Part.lexemes]
      rw [hlexemes]
      exact .suggestion hpart (ih hrest)

theorem flatMap_content (h : Divided ls parts) :
    parts.flatMap Part.content = ls.filter fun l => !l.isSuggestionMark := by
  induction h with
  | nil => rfl
  | lexeme hplain _ ih => simp [Part.content, hplain, ih]
  | @suggestion content _ _ hplain _ ih =>
    have hcontent : content.filter (fun l => !l.isSuggestionMark) = content :=
      List.filter_eq_self.mpr (by simpa using hplain)
    simp [Part.content, hcontent, ih]

theorem isReadable (h : Divided ls parts) (hreadable : ∀ l ∈ ls, l.IsReadable) : ∀ part ∈ parts, part.IsReadable := by
  intro part hpart l hl
  have hmem : l ∈ ls.filter fun l => !l.isSuggestionMark := by
    rw [← h.flatMap_content]
    exact List.mem_flatMap.mpr ⟨part, hpart, hl⟩
  obtain ⟨hls, hplain⟩ := List.mem_filter.mp hmem
  exact (hreadable l hls).resolve_left (by simpa using hplain)

end Divided

namespace Outline

variable {ls : List Lexeme} {segments segments' : List Segment} {pieces : List Piece}

theorem foldlM_cons_eq_some {o o' : Outline} {l : Lexeme} :
    (l :: ls).foldlM add o = some o' ↔ ∃ next, o.add l = some next ∧ ls.foldlM add next = some o' := by
  rw [List.foldlM_cons, Option.bind_eq_bind, Option.bind_eq_some_iff]

theorem add_plain_eq_some {o next : Outline} {l : Lexeme} (hplain : l.isSuggestionMark = false) :
    o.add l = some next ↔ ∃ p, l.piece? = some p ∧ o.addPiece p = next := by
  rw [add_of_plain hplain, Option.map_eq_some_iff]

/-- If a row of lexemes is read, its references can be and its marks come in turns. A suggestion that is open at its
start is closed by the first of them. -/
theorem paired_of_foldlM :
    (∀ segments, ls.foldlM add ⟨segments, none⟩ = some ⟨segments', none⟩ → Paired ls ∧ ∀ l ∈ ls, l.IsReadable) ∧
      (∀ segments pieces, ls.foldlM add ⟨segments, some pieces⟩ = some ⟨segments', none⟩ →
        Paired (.openSuggestion :: ls) ∧ ∀ l ∈ ls, l.IsReadable) := by
  induction ls with
  | nil => exact ⟨fun _ _ => ⟨⟨0, rfl⟩, List.forall_mem_nil _⟩, fun _ _ h => nomatch h⟩
  | cons l rest ih =>
    obtain ⟨houtside, hinside⟩ := ih
    simp only [foldlM_cons_eq_some, List.forall_mem_cons]
    rcases l.mark_cases with hplain | rfl | rfl
    · simp only [add_plain_eq_some hplain, paired_cons_of_plain hplain, paired_open_cons_of_plain hplain]
      constructor
      · rintro segments ⟨next, ⟨p, hp, rfl⟩, hrest⟩
        obtain ⟨hpaired, hreadable⟩ := houtside _ hrest
        exact ⟨hpaired, Or.inr ⟨p, hp⟩, hreadable⟩
      · rintro segments pieces ⟨next, ⟨p, hp, rfl⟩, hrest⟩
        obtain ⟨hpaired, hreadable⟩ := hinside _ _ hrest
        exact ⟨hpaired, Or.inr ⟨p, hp⟩, hreadable⟩
    · constructor
      · rintro segments ⟨next, hnext, hrest⟩
        rw [add_open rfl, Option.some_inj] at hnext
        obtain ⟨hpaired, hreadable⟩ := hinside _ _ (hnext ▸ hrest)
        exact ⟨hpaired, Or.inl rfl, hreadable⟩
      · rintro segments pieces ⟨next, hnext, -⟩
        rw [add_open_of_some rfl] at hnext
        cases hnext
    · constructor
      · rintro segments ⟨next, hnext, -⟩
        rw [add_close_of_none rfl] at hnext
        cases hnext
      · rintro segments pieces ⟨next, hnext, hrest⟩
        rw [add_close rfl, Option.some_inj] at hnext
        obtain ⟨hpaired, hreadable⟩ := houtside _ (hnext ▸ hrest)
        exact ⟨paired_open_close_iff.mpr hpaired, Or.inl rfl, hreadable⟩

theorem add_of_piece? {l : Lexeme} {p : Piece} (h : l.piece? = some p) (o : Outline) :
    o.add l = some (o.addPiece p) := by
  cases l with
  | openSuggestion => cases h
  | closeSuggestion => cases h
  | _ => rw [add_of_plain rfl, h, Option.map_some]

theorem foldlM_content {content : List Lexeme} (h : ∀ l ∈ content, ∃ p, l.piece? = some p)
    (segments : List Segment) (pieces : List Piece) : content.foldlM add ⟨segments, some pieces⟩ =
      some ⟨segments, some (pieces ++ content.filterMap Lexeme.piece?)⟩ := by
  induction content generalizing pieces with
  | nil => simp
  | cons l rest ih =>
    obtain ⟨⟨p, hp⟩, hrest⟩ := List.forall_mem_cons.mp h
    rw [foldlM_cons_eq_some]
    refine ⟨⟨segments, some (pieces ++ [p])⟩, add_of_piece? hp _, ?_⟩
    rw [ih hrest, List.filterMap_cons_some hp, List.append_assoc, List.singleton_append]

theorem foldlM_lexemes {part : Part} (h : part.IsReadable) (segments : List Segment) :
    ∃ segment, part.segment? = some segment ∧
      part.lexemes.foldlM add ⟨segments, none⟩ = some ⟨segments ++ [segment], none⟩ := by
  cases part with
  | lexeme l =>
    obtain ⟨p, hp⟩ := h l (List.mem_singleton_self l)
    refine ⟨.piece p, by simp [Part.segment?, hp], ?_⟩
    exact foldlM_cons_eq_some.mpr ⟨_, add_of_piece? hp _, rfl⟩
  | suggestion content =>
    refine ⟨_, rfl, ?_⟩
    rw [Part.lexemes, foldlM_cons_eq_some]
    refine ⟨_, add_open rfl, ?_⟩
    have hcontent := foldlM_content h segments []
    rw [Part.content] at hcontent
    rw [List.foldlM_append, hcontent]
    rfl

/-- Parts are read one after the other. -/
theorem foldlM_parts {parts : List Part} (h : ∀ part ∈ parts, part.IsReadable) (segments : List Segment) :
    (parts.flatMap Part.lexemes).foldlM add ⟨segments, none⟩ =
      some ⟨segments ++ parts.filterMap Part.segment?, none⟩ := by
  induction parts generalizing segments with
  | nil => simp
  | cons part rest ih =>
    obtain ⟨hpart, hrest⟩ := List.forall_mem_cons.mp h
    obtain ⟨segment, hsegment, hadd⟩ := foldlM_lexemes hpart segments
    have hlater := ih hrest (segments ++ [segment])
    rw [List.flatMap_cons, List.foldlM_append, hadd, List.filterMap_cons_some hsegment]
    rwa [List.append_assoc, List.singleton_append] at hlater

end Outline

/-- A template with a piece for each character. -/
def split (t : Template) : Template := ⟨t.segments.flatMap Segment.split⟩

section Parse

variable {source : String} {ls : List Lexeme}

theorem parse_eq_ok_iff {t : Template} : parse source = .ok t ↔
    ∃ d, (lexemes source.toList.length source.toList).foldlM Draft.add ⟨[], none, []⟩ = .ok d ∧
      d.suggestion = none ∧ ⟨d.flush.segments.reverse⟩ = t := by
  unfold parse
  simp only [bind_eq_ok]
  refine exists_congr fun d => and_congr_right fun _ => ?_
  cases d.suggestion with
  | none => simp [pure_eq_ok]
  | some pieces => exact iff_of_false (fun h => nomatch h) fun h => nomatch h.1

theorem outline_of_closed {d : Draft} (h : d.suggestion = none) :
    d.outline = ⟨(split ⟨d.flush.segments.reverse⟩).segments, none⟩ := by
  have hflush : d.flush.suggestion = none := by
    simpa [h] using d.suggestion_flush
  rw [← Draft.outline_flush]
  simp [Draft.outline, hflush, d.text_flush, split]

/-- The template that a source is read as, with a piece for each character. -/
theorem exists_parse_split_iff (h : Scanned source.toList ls) {segments : List Segment} :
    (∃ t, parse source = .ok t ∧ t.split.segments = segments) ↔
      ls.foldlM Outline.add ⟨[], none⟩ = some ⟨segments, none⟩ := by
  have hstart : (⟨[], none, []⟩ : Draft).outline = ⟨[], none⟩ := rfl
  rw [h.eq_lexemes (Nat.le_refl _), ← hstart, ← Draft.outline_foldlM, Option.map_eq_some_iff]
  constructor
  · rintro ⟨t, hparse, rfl⟩
    obtain ⟨d, hread, hclosed, rfl⟩ := parse_eq_ok_iff.mp hparse
    exact ⟨d, toOption_eq_some.mpr hread, outline_of_closed hclosed⟩
  · rintro ⟨d, hread, houtline⟩
    have hclosed : d.suggestion = none := by
      simpa [houtline] using d.suggestion_outline.symm
    rw [outline_of_closed hclosed] at houtline
    refine ⟨_, parse_eq_ok_iff.mpr ⟨d, toOption_eq_some.mp hread, hclosed, rfl⟩, ?_⟩
    exact congrArg Outline.segments houtline

/-- A source is read if its references can be and the marks of its suggestions come in turns. -/
theorem exists_parse_iff (h : Scanned source.toList ls) :
    (∃ t, parse source = .ok t) ↔ Paired ls ∧ ∀ l ∈ ls, l.IsReadable := by
  constructor
  · rintro ⟨t, hparse⟩
    exact Outline.paired_of_foldlM.1 [] ((exists_parse_split_iff h).mp ⟨t, hparse, rfl⟩)
  · rintro ⟨hpaired, hreadable⟩
    obtain ⟨parts, hdivided⟩ := (exists_divided ls).1 hpaired
    have hread := Outline.foldlM_parts (hdivided.isReadable hreadable) []
    rw [hdivided.flatMap_lexemes] at hread
    obtain ⟨t, hparse, -⟩ := (exists_parse_split_iff h).mpr hread
    exact ⟨t, hparse⟩

theorem split_of_parse (h : Scanned source.toList ls) {parts : List Part} (hdivided : Divided ls parts) {t : Template}
    (hparse : parse source = .ok t) : t.split = ⟨parts.filterMap Part.segment?⟩ := by
  obtain ⟨-, hreadable⟩ := (exists_parse_iff h).mp ⟨t, hparse⟩
  have hread := (exists_parse_split_iff h).mp ⟨t, hparse, rfl⟩
  rw [← hdivided.flatMap_lexemes, Outline.foldlM_parts (hdivided.isReadable hreadable), Option.some_inj] at hread
  exact congrArg (fun o => Template.mk o.segments) hread.symm

end Parse

end GrammarCheck.Template
