import GrammarCheck.Proofs.Resolution
import GrammarCheck.Proofs.Template.Layout

/-! Templates are substitution. A template gives its source back with the texts of its references in their places; a
reference that is not resolved is left out, and with it the suggestion around it. -/

namespace GrammarCheck.Template

open Success

namespace Lexeme

def reference? (l : Lexeme) : Option Reference := l.piece?.bind Piece.reference?

def isResolved (b : Bindings) (l : Lexeme) : Bool := l.reference?.all fun r => (r.resolve? b).isSome

/-- A lexeme with the text of its reference in its place. -/
def substituted (b : Bindings) (l : Lexeme) : List Char :=
  match l.reference? with
  | some r => ((r.resolve? b).getD "").toList
  | none => l.written

end Lexeme

def substitute (b : Bindings) (ls : List Lexeme) : String := String.ofList (ls.flatMap (Lexeme.substituted b))

namespace Part

def isResolved (b : Bindings) (part : Part) : Bool := part.content.all (Lexeme.isResolved b)

/-- What stands in a suggestion. -/
def suggested? : Part → Option (List Lexeme)
  | .lexeme _ => none
  | .suggestion content => some content

end Part

variable {b : Bindings}

theorem substitute_append (ls ls' : List Lexeme) : substitute b (ls ++ ls') = substitute b ls ++ substitute b ls' := by
  simp [substitute]

section Split

/-- Two texts, one after the other, if both are there. -/
def join? (x y : Option String) : Option String := x.bind fun s => y.map (s ++ ·)

theorem empty_join? (x : Option String) : join? (some "") x = x := by
  cases x <;> simp [join?]

theorem join?_empty (x : Option String) : join? x (some "") = x := by
  cases x <;> simp [join?]

theorem join?_assoc (x y z : Option String) : join? (join? x y) z = join? x (join? y z) := by
  cases x <;> cases y <;> cases z <;> simp [join?, String.append_assoc]

theorem join?_eq_some {x y : Option String} {s : String} :
    join? x y = some s ↔ ∃ first rest, x = some first ∧ y = some rest ∧ first ++ rest = s := by
  cases x <;> cases y <;> simp [join?]

theorem renderPieces?_cons (p : Piece) (rest : List Piece) :
    renderPieces? b (p :: rest) = join? (Piece.render? b p) (renderPieces? b rest) := by
  rw [renderPieces?]
  cases Piece.render? b p <;> cases renderPieces? b rest <;> rfl

theorem renderPieces?_append (before after : List Piece) :
    renderPieces? b (before ++ after) = join? (renderPieces? b before) (renderPieces? b after) := by
  induction before with
  | nil => exact (empty_join? _).symm
  | cons p rest ih => rw [List.cons_append, renderPieces?_cons, renderPieces?_cons, ih, join?_assoc]

theorem renderPieces?_map_singleton (cs : List Char) :
    renderPieces? b (cs.map fun c => .text (String.singleton c)) = some (String.ofList cs) := by
  induction cs with
  | nil => rfl
  | cons c rest ih =>
    rw [List.map_cons, renderPieces?_cons, ih]
    simp [Piece.render?, join?, String.ofList_cons]

theorem renderPieces?_split (p : Piece) : renderPieces? b (Piece.split p) = Piece.render? b p := by
  cases p with
  | text s =>
    rw [Piece.split, renderPieces?_map_singleton, String.ofList_toList]
    rfl
  | reference r =>
    rw [Piece.split, renderPieces?_cons]
    exact join?_empty _

theorem renderPieces?_flatMap_split (pieces : List Piece) :
    renderPieces? b (pieces.flatMap Piece.split) = renderPieces? b pieces := by
  induction pieces with
  | nil => rfl
  | cons p rest ih => rw [List.flatMap_cons, renderPieces?_append, renderPieces?_split, ih, renderPieces?_cons]

theorem renderSegments?_cons (segment : Segment) (rest : List Segment) :
    renderSegments? b (segment :: rest) = join? (renderSegmentText? b segment) (renderSegments? b rest) := by
  rw [renderSegments?]
  cases renderSegmentText? b segment <;> cases renderSegments? b rest <;> rfl

theorem renderSegments?_append (before after : List Segment) :
    renderSegments? b (before ++ after) = join? (renderSegments? b before) (renderSegments? b after) := by
  induction before with
  | nil => exact (empty_join? _).symm
  | cons segment rest ih => rw [List.cons_append, renderSegments?_cons, renderSegments?_cons, ih, join?_assoc]

theorem renderSegments?_map_piece (pieces : List Piece) :
    renderSegments? b (pieces.map .piece) = renderPieces? b pieces := by
  induction pieces with
  | nil => rfl
  | cons p rest ih =>
    rw [List.map_cons, renderSegments?_cons, ih, renderPieces?_cons]
    rfl

theorem text_render_cons (segment : Segment) (rest : List Segment) :
    (render ⟨segment :: rest⟩ b).text = (render ⟨[segment]⟩ b).text ++ (render ⟨rest⟩ b).text :=
  text_render_append [segment] rest b

theorem text_render_map_piece {pieces : List Piece} {s : String} (h : renderPieces? b pieces = some s) :
    (render ⟨pieces.map .piece⟩ b).text = s := by
  induction pieces generalizing s with
  | nil => exact Option.some_inj.mp h
  | cons p rest ih =>
    rw [renderPieces?_cons, join?_eq_some] at h
    obtain ⟨first, others, hfirst, hothers, rfl⟩ := h
    rw [List.map_cons, text_render_cons, ih hothers]
    simp [render, renderSegment, hfirst]

/-- What is put together from the parts of a template stays the same if each of its texts is split. -/
theorem flatMap_split_eq {α : Type} (f : List Segment → α) (op : α → α → α)
    (happend : ∀ before after, f (before ++ after) = op (f before) (f after))
    (hsplit : ∀ segment, f (Segment.split segment) = f [segment]) (t : Template) :
    f t.split.segments = f t.segments := by
  obtain ⟨segments⟩ := t
  induction segments with
  | nil => rfl
  | cons segment rest ih =>
    have hcons : (split ⟨segment :: rest⟩).segments = Segment.split segment ++ (split ⟨rest⟩).segments :=
      List.flatMap_cons
    rw [hcons, happend, hsplit, ih, ← happend, List.singleton_append]

theorem renderText?_split (t : Template) : t.split.renderText? b = t.renderText? b := by
  refine flatMap_split_eq (renderSegments? b) join? renderSegments?_append (fun segment => ?_) t
  cases segment with
  | piece p =>
    rw [Segment.split, renderSegments?_map_piece, renderPieces?_split, renderSegments?_cons]
    exact (join?_empty _).symm
  | suggestion pieces =>
    rw [Segment.split, renderSegments?_cons, renderSegments?_cons, renderSegmentText?, renderPieces?_flatMap_split]
    rfl

theorem text_render_split (t : Template) : (t.split.render b).text = (t.render b).text := by
  refine flatMap_split_eq (fun segments => (render ⟨segments⟩ b).text) (· ++ ·)
    (fun before after => text_render_append before after b) (fun segment => ?_) t
  cases segment with
  | piece p =>
    cases p with
    | text s =>
      have hpieces : renderPieces? b (Piece.split (.text s)) = some s := renderPieces?_split (.text s)
      rw [Segment.split, text_render_map_piece hpieces]
      simp [render, renderSegment, Piece.render?]
    | reference r => rfl
  | suggestion pieces =>
    simp only [render, Segment.split, List.foldl_cons, List.foldl_nil, renderSegment, renderPieces?_flatMap_split]

theorem suggestions_render_split (t : Template) : (t.split.render b).suggestions = (t.render b).suggestions := by
  rw [suggestions_render, suggestions_render]
  congr 1
  refine flatMap_split_eq (List.filterMap (suggestion? b)) (· ++ ·) (fun _ _ => List.filterMap_append)
    (fun segment => ?_) t
  cases segment with
  | piece p => cases p <;> simp [Segment.split, suggestion?, Function.comp_def]
  | suggestion pieces =>
    have hown : suggestion? b (.suggestion (pieces.flatMap Piece.split)) = suggestion? b (.suggestion pieces) :=
      renderPieces?_flatMap_split pieces
    simp [Segment.split, List.filterMap_cons, hown]

theorem filterMap_reference?_split (pieces : List Piece) :
    (pieces.flatMap Piece.split).filterMap Piece.reference? = pieces.filterMap Piece.reference? := by
  induction pieces with
  | nil => rfl
  | cons p rest ih =>
    rw [List.flatMap_cons, List.filterMap_append, ih]
    cases p <;> simp [Piece.split, Piece.reference?, Function.comp_def, List.filterMap_cons]

theorem references_split (t : Template) : t.split.references = t.references := by
  refine flatMap_split_eq (fun segments => references ⟨segments⟩) (· ++ ·) (fun _ _ => List.flatMap_append)
    (fun segment => ?_) t
  cases segment with
  | piece p => cases p <;> simp [references, Segment.split, Piece.split, Piece.reference?]
  | suggestion pieces => simp [references, Segment.split, filterMap_reference?_split]

end Split

section Parts

theorem join?_ite (p q : Bool) (x y : String) :
    join? (if p then some x else none) (if q then some y else none) = if p && q then some (x ++ y) else none := by
  cases p <;> cases q <;> rfl

theorem render?_of_reference? {l : Lexeme} {r : Reference} (h : l.reference? = some r) :
    Piece.render? b (.reference r) = if l.isResolved b then some (substitute b [l]) else none := by
  cases hr : r.resolve? b <;> simp [Piece.render?, Lexeme.isResolved, substitute, Lexeme.substituted, h, hr]

theorem render?_of_piece? {l : Lexeme} {p : Piece} (h : l.piece? = some p) :
    Piece.render? b p = if l.isResolved b then some (substitute b [l]) else none := by
  have hreference : l.reference? = Piece.reference? p := by
    simp [Lexeme.reference?, h]
  cases l with
  | char c =>
    obtain rfl := Option.some_inj.mp h
    rfl
  | number digits =>
    obtain ⟨n, -, rfl⟩ := Option.map_eq_some_iff.mp h
    exact render?_of_reference? hreference
  | tag source =>
    obtain ⟨r, -, rfl⟩ := Option.map_eq_some_iff.mp h
    exact render?_of_reference? hreference
  | openSuggestion => cases h
  | closeSuggestion => cases h

theorem renderPieces?_content {content : List Lexeme} (h : ∀ l ∈ content, ∃ p, l.piece? = some p) :
    renderPieces? b (content.filterMap Lexeme.piece?) =
      if content.all (Lexeme.isResolved b) then some (substitute b content) else none := by
  induction content with
  | nil => rfl
  | cons l rest ih =>
    obtain ⟨⟨p, hp⟩, hrest⟩ := List.forall_mem_cons.mp h
    rw [List.filterMap_cons_some hp, renderPieces?_cons, render?_of_piece? hp, ih hrest, join?_ite, List.all_cons,
      ← substitute_append, List.singleton_append]

variable {part : Part} {segment : Segment}

theorem exists_segment? (h : part.IsReadable) : ∃ segment, part.segment? = some segment := by
  obtain ⟨segment, hsegment, -⟩ := Outline.foldlM_lexemes h []
  exact ⟨segment, hsegment⟩

theorem renderSegmentText?_of_segment? (h : part.IsReadable) (hsegment : part.segment? = some segment) :
    renderSegmentText? b segment = if part.isResolved b then some (substitute b part.content) else none := by
  cases part with
  | lexeme l =>
    obtain ⟨p, hp, rfl⟩ := Option.map_eq_some_iff.mp hsegment
    rw [renderSegmentText?, render?_of_piece? hp]
    simp [Part.isResolved, Part.content]
  | suggestion content =>
    obtain rfl := Option.some_inj.mp hsegment
    exact renderPieces?_content h

theorem text_render_of_segment? (h : part.IsReadable) (hsegment : part.segment? = some segment) :
    (render ⟨[segment]⟩ b).text = if part.isResolved b then substitute b part.lexemes else "" := by
  have hown := renderSegmentText?_of_segment? (b := b) h hsegment
  cases part with
  | lexeme l =>
    obtain ⟨p, -, rfl⟩ := Option.map_eq_some_iff.mp hsegment
    have htext : (render ⟨[.piece p]⟩ b).text = (Piece.render? b p).getD "" := String.empty_append
    rw [renderSegmentText?] at hown
    rw [htext, hown]
    cases (Part.lexeme l).isResolved b <;> rfl
  | suggestion content =>
    obtain rfl := Option.some_inj.mp hsegment
    rw [renderSegmentText?] at hown
    cases hresolved : (Part.suggestion content).isResolved b with
    | false =>
      rw [hresolved] at hown
      exact congrArg Rendered.text (renderSegment_of_none hown ⟨"", []⟩)
    | true =>
      rw [hresolved] at hown
      refine (congrArg Rendered.text (renderSegment_of_some hown ⟨"", []⟩)).trans ?_
      have hopen : substitute b [.openSuggestion] = "<suggestion>" := rfl
      have hclose : substitute b [.closeSuggestion] = "</suggestion>" := rfl
      have hlexemes : (Part.suggestion content).lexemes =
          [.openSuggestion] ++ content ++ [.closeSuggestion] := rfl
      rw [if_pos rfl, hlexemes, substitute_append, substitute_append, hopen, hclose, String.empty_append]
      rfl

theorem suggestion?_of_segment? (h : part.IsReadable) (hsegment : part.segment? = some segment) :
    suggestion? b segment = if part.isResolved b then part.suggested?.map (substitute b) else none := by
  cases part with
  | lexeme l =>
    obtain ⟨p, -, rfl⟩ := Option.map_eq_some_iff.mp hsegment
    simp [suggestion?, Part.suggested?]
  | suggestion content =>
    have hown := renderSegmentText?_of_segment? (b := b) h hsegment
    obtain rfl := Option.some_inj.mp hsegment
    exact hown

theorem references_of_segment? (hsegment : part.segment? = some segment) :
    references ⟨[segment]⟩ = part.content.filterMap Lexeme.reference? := by
  cases part with
  | lexeme l =>
    obtain ⟨p, hp, rfl⟩ := Option.map_eq_some_iff.mp hsegment
    have hreference : l.reference? = Piece.reference? p := by
      simp [Lexeme.reference?, hp]
    cases hr : Piece.reference? p <;> simp [references, Part.content, hreference, hr]
  | suggestion content =>
    obtain rfl := Option.some_inj.mp hsegment
    have hcontent : references ⟨[.suggestion (content.filterMap Lexeme.piece?)]⟩ =
        (content.filterMap Lexeme.piece?).filterMap Piece.reference? := List.append_nil _
    rw [hcontent, List.filterMap_filterMap]
    rfl

variable {parts : List Part}

theorem renderSegments?_parts (h : ∀ part ∈ parts, part.IsReadable) :
    renderSegments? b (parts.filterMap Part.segment?) =
      if parts.all (Part.isResolved b) then some (substitute b (parts.flatMap Part.content)) else none := by
  induction parts with
  | nil => rfl
  | cons part rest ih =>
    obtain ⟨hpart, hrest⟩ := List.forall_mem_cons.mp h
    obtain ⟨segment, hsegment⟩ := exists_segment? hpart
    rw [List.filterMap_cons_some hsegment, renderSegments?_cons, renderSegmentText?_of_segment? hpart hsegment, ih hrest,
      join?_ite, List.all_cons, List.flatMap_cons, substitute_append]

theorem text_render_parts (h : ∀ part ∈ parts, part.IsReadable) : (render ⟨parts.filterMap Part.segment?⟩ b).text =
    substitute b ((parts.filter (Part.isResolved b)).flatMap Part.lexemes) := by
  induction parts with
  | nil => rfl
  | cons part rest ih =>
    obtain ⟨hpart, hrest⟩ := List.forall_mem_cons.mp h
    obtain ⟨segment, hsegment⟩ := exists_segment? hpart
    rw [List.filterMap_cons_some hsegment, text_render_cons, text_render_of_segment? hpart hsegment, ih hrest,
      List.filter_cons]
    cases part.isResolved b with
    | false => exact String.empty_append
    | true => exact (substitute_append part.lexemes _).symm

theorem filterMap_suggestion?_parts (h : ∀ part ∈ parts, part.IsReadable) :
    (parts.filterMap Part.segment?).filterMap (suggestion? b) =
      ((parts.filter (Part.isResolved b)).filterMap Part.suggested?).map (substitute b) := by
  induction parts with
  | nil => rfl
  | cons part rest ih =>
    obtain ⟨hpart, hrest⟩ := List.forall_mem_cons.mp h
    obtain ⟨segment, hsegment⟩ := exists_segment? hpart
    rw [List.filterMap_cons_some hsegment, List.filterMap_cons, suggestion?_of_segment? hpart hsegment, ih hrest,
      List.filter_cons]
    cases part.isResolved b with
    | false => rfl
    | true => cases hsuggested : part.suggested? <;> simp [hsuggested]

theorem references_parts (h : ∀ part ∈ parts, part.IsReadable) :
    references ⟨parts.filterMap Part.segment?⟩ = (parts.flatMap Part.content).filterMap Lexeme.reference? := by
  induction parts with
  | nil => rfl
  | cons part rest ih =>
    obtain ⟨hpart, hrest⟩ := List.forall_mem_cons.mp h
    obtain ⟨segment, hsegment⟩ := exists_segment? hpart
    rw [List.filterMap_cons_some hsegment, references_cons, references_of_segment? hsegment, ih hrest,
      List.flatMap_cons, List.filterMap_append]

end Parts

theorem foldl_addDistinct_eq (texts known : List String) :
    texts.foldl addDistinct known = known ++ (texts.filter fun text => !known.contains text).eraseDups := by
  induction texts generalizing known with
  | nil => simp
  | cons text rest ih =>
    rw [List.foldl_cons, ih, addDistinct, List.filter_cons]
    cases hknown : known.contains text with
    | true => simp
    | false =>
      have hlater : rest.filter (fun later => !(known ++ [text]).contains later) =
          (rest.filter fun later => !known.contains later).filter fun later => !later == text := by
        rw [List.filter_filter]
        refine List.filter_congr fun later _ => ?_
        by_cases hlater : later = text <;> simp [hlater]
      simp only [Bool.false_eq_true, if_false, Bool.not_false, if_true, hlater, List.eraseDups_cons, List.append_assoc,
        List.singleton_append]

theorem foldl_addDistinct (texts : List String) : texts.foldl addDistinct [] = texts.eraseDups := by
  simpa using foldl_addDistinct_eq texts []

section Parse

variable {source : String} {ls : List Lexeme} {parts : List Part} {t : Template}

theorem Lexeme.reference?_eq_none {l : Lexeme} (h : l.isSuggestionMark = true) : l.reference? = none := by
  rcases l.mark_cases with hplain | rfl | rfl
  · rw [hplain] at h
    cases h
  · rfl
  · rfl

theorem Lexeme.isResolved_iff {l : Lexeme} :
    l.isResolved b = true ↔ ∀ r, l.reference? = some r → ∃ text, r.resolve? b = some text := by
  cases hr : l.reference? <;> simp [isResolved, hr, Option.isSome_iff_exists]

theorem filterMap_reference?_content (h : Divided ls parts) :
    (parts.flatMap Part.content).filterMap Lexeme.reference? = ls.filterMap Lexeme.reference? := by
  rw [h.flatMap_content, List.filterMap_filter]
  refine List.filterMap_congr fun l _ => ?_
  cases hmark : l.isSuggestionMark with
  | false => rfl
  | true => exact (Lexeme.reference?_eq_none hmark).symm

theorem references_of_parse (h : Scanned source.toList ls) (hparse : parse source = .ok t) :
    t.references = ls.filterMap Lexeme.reference? := by
  obtain ⟨hpaired, hreadable⟩ := (exists_parse_iff h).mp ⟨t, hparse⟩
  obtain ⟨parts, hdivided⟩ := (exists_divided ls).1 hpaired
  rw [← references_split, split_of_parse h hdivided hparse, references_parts (hdivided.isReadable hreadable),
    filterMap_reference?_content hdivided]

theorem all_isResolved_iff (h : Divided ls parts) : parts.all (Part.isResolved b) = true ↔
    ∀ r ∈ ls.filterMap Lexeme.reference?, ∃ text, r.resolve? b = some text := by
  rw [← filterMap_reference?_content h]
  simp only [List.all_eq_true, Part.isResolved, Lexeme.isResolved_iff, List.mem_filterMap, List.mem_flatMap]
  constructor
  · rintro h r ⟨l, ⟨part, hpart, hl⟩, hr⟩
    exact h part hpart l hl r hr
  · intro h part hpart l hl r hr
    exact h r ⟨l, ⟨part, hpart, hl⟩, hr⟩

/-- What is left out is what is not resolved. -/
theorem render_of_parse (h : Scanned source.toList ls) (hdivided : Divided ls parts) (hparse : parse source = .ok t) :
    t.render b = ⟨substitute b ((parts.filter (Part.isResolved b)).flatMap Part.lexemes),
      (((parts.filter (Part.isResolved b)).filterMap Part.suggested?).map (substitute b)).eraseDups⟩ := by
  obtain ⟨-, hreadable⟩ := (exists_parse_iff h).mp ⟨t, hparse⟩
  have hparts := hdivided.isReadable hreadable
  have hsplit := split_of_parse h hdivided hparse
  have htext := text_render_parts (b := b) hparts
  have hsuggestions := suggestions_render ⟨parts.filterMap Part.segment?⟩ b
  rw [filterMap_suggestion?_parts hparts, foldl_addDistinct] at hsuggestions
  rw [← hsplit, text_render_split] at htext
  rw [← hsplit, suggestions_render_split] at hsuggestions
  rw [← htext, ← hsuggestions]

theorem renderText?_of_parse (h : Scanned source.toList ls) (hdivided : Divided ls parts)
    (hparse : parse source = .ok t) : t.renderText? b =
      if parts.all (Part.isResolved b) then some (substitute b (ls.filter fun l => !l.isSuggestionMark)) else none := by
  obtain ⟨-, hreadable⟩ := (exists_parse_iff h).mp ⟨t, hparse⟩
  rw [← renderText?_split, split_of_parse h hdivided hparse, ← hdivided.flatMap_content]
  exact renderSegments?_parts (hdivided.isReadable hreadable)

/-- What the parts of a template give for bindings. Its source comes back with the text of each reference in its place;
if some are not resolved, these are left out, and with them the suggestions they stand in. -/
structure Substitutes (t : Template) (ls : List Lexeme) (parts : List Part) (b : Bindings) : Prop where
  resolved : (∀ r ∈ t.references, ∃ text, r.resolve? b = some text) →
    t.render b = ⟨substitute b ls, ((parts.filterMap Part.suggested?).map (substitute b)).eraseDups⟩ ∧
      t.renderText? b = some (substitute b (ls.filter fun l => !l.isSuggestionMark))
  unresolved : (∃ r ∈ t.references, r.resolve? b = none) →
    t.render b = ⟨substitute b ((parts.filter (Part.isResolved b)).flatMap Part.lexemes),
        (((parts.filter (Part.isResolved b)).filterMap Part.suggested?).map (substitute b)).eraseDups⟩ ∧
      t.renderText? b = none

theorem substitutes_of_parse (h : Scanned source.toList ls) (hdivided : Divided ls parts) (hparse : parse source = .ok t)
    (b : Bindings) : t.Substitutes ls parts b := by
  have hrender := render_of_parse (b := b) h hdivided hparse
  have htext := renderText?_of_parse (b := b) h hdivided hparse
  have hreferences := references_of_parse h hparse
  constructor
  case resolved =>
    intro hresolved
    rw [hreferences] at hresolved
    have hall := (all_isResolved_iff hdivided).mpr hresolved
    have hkept : parts.filter (Part.isResolved b) = parts := List.filter_eq_self.mpr (List.all_eq_true.mp hall)
    rw [hkept, hdivided.flatMap_lexemes] at hrender
    rw [hall, if_pos rfl] at htext
    exact ⟨hrender, htext⟩
  case unresolved =>
    rintro ⟨r, hr, hnone⟩
    have hnot : ¬parts.all (Part.isResolved b) = true := by
      rw [all_isResolved_iff hdivided, ← hreferences]
      intro hall
      obtain ⟨text, htext⟩ := hall r hr
      rw [hnone] at htext
      cases htext
    rw [if_neg hnot] at htext
    exact ⟨hrender, htext⟩

end Parse

/-- A source is scanned in one way. It is read as a template just in case its references can be and its suggestions are
paired; it then is divided in one way, and the template substitutes the texts of the references. -/
theorem render_substitutes (source : String) :
    ∃ ls, (∀ ls', Scanned source.toList ls' ↔ ls' = ls) ∧ ls.flatMap Lexeme.written = source.toList ∧
      ((∃ t, parse source = .ok t) ↔ Paired ls ∧ ∀ l ∈ ls, l.IsReadable) ∧
      ∀ t, parse source = .ok t → t.references = ls.filterMap Lexeme.reference? ∧
        ∃ parts, (∀ parts', Divided ls parts' ↔ parts' = parts) ∧ ∀ b, t.Substitutes ls parts b := by
  have h := scanned_lexemes (Nat.le_refl source.toList.length)
  refine ⟨_, fun ls' => ⟨fun h' => h'.eq_lexemes (Nat.le_refl _), fun heq => heq ▸ h⟩, h.flatMap_written,
    exists_parse_iff h, fun t hparse => ?_⟩
  obtain ⟨hpaired, -⟩ := (exists_parse_iff h).mp ⟨t, hparse⟩
  obtain ⟨parts, hdivided⟩ := (exists_divided _).1 hpaired
  exact ⟨references_of_parse h hparse, parts, fun parts' => ⟨hdivided.unique, fun heq => heq ▸ hdivided⟩,
    substitutes_of_parse h hdivided hparse⟩

def repeatedSuggestions : String :=
  "<suggestion>\\1 <match no=\"2\"/></suggestion>/<suggestion>\\1 \\2</suggestion>/<suggestion>\\1</suggestion>\\2"

/-- The second suggestion has the text of the first. Where the second word is missing, only the last one is left. -/
theorem render_repeatedSuggestions :
    ∃ t s, parse repeatedSuggestions = .ok t ∧
      t.render ⟨s, [⟨0, 1⟩, ⟨1, 2⟩]⟩ =
        ⟨"<suggestion>a b</suggestion>/<suggestion>a b</suggestion>/<suggestion>a</suggestion>b", ["a b", "a"]⟩ ∧
      t.renderText? ⟨s, [⟨0, 1⟩, ⟨1, 2⟩]⟩ = some "a b/a b/ab" ∧
      t.render ⟨s, [⟨0, 1⟩]⟩ = ⟨"//<suggestion>a</suggestion>", ["a"]⟩ ∧ t.renderText? ⟨s, [⟨0, 1⟩]⟩ = none := by
  obtain ⟨ls, hscan, -, -, hrender⟩ := render_substitutes repeatedSuggestions
  have hscanned := scanned_lexemes (Nat.le_refl repeatedSuggestions.toList.length)
  have hlexemes : lexemes repeatedSuggestions.toList.length repeatedSuggestions.toList =
      [.openSuggestion, .number ['1'], .char ' ', .tag " no=\"2\"".toList, .closeSuggestion, .char '/',
        .openSuggestion, .number ['1'], .char ' ', .number ['2'], .closeSuggestion, .char '/',
        .openSuggestion, .number ['1'], .closeSuggestion, .number ['2']] := by decide +kernel
  rw [hlexemes] at hscanned
  obtain rfl := (hscan _).mp hscanned
  have hok : (parse repeatedSuggestions).toOption.isSome = true := by decide +kernel
  obtain ⟨t, hparse⟩ := Option.isSome_iff_exists.mp hok
  obtain ⟨hreferences, parts, hdivided, hb⟩ := hrender t (toOption_eq_some.mp hparse)
  have hparts : Divided _ [.suggestion [.number ['1'], .char ' ', .tag " no=\"2\"".toList], .lexeme (.char '/'),
      .suggestion [.number ['1'], .char ' ', .number ['2']], .lexeme (.char '/'), .suggestion [.number ['1']],
      .lexeme (.number ['2'])] := .of_parts (by decide)
  obtain rfl := (hdivided _).mp hparts
  let s : Sentence := .ofTokens [.new "a" [], .new "b" []]
  have hresolved : ∀ r ∈ t.references, ∃ text, r.resolve? ⟨s, [⟨0, 1⟩, ⟨1, 2⟩]⟩ = some text := by
    rw [hreferences]
    simp only [← Option.isSome_iff_exists]
    decide +kernel
  have hmissing : ∃ r ∈ t.references, r.resolve? ⟨s, [⟨0, 1⟩]⟩ = none := by
    rw [hreferences]
    exact ⟨{ position := 2 }, List.mem_filterMap.mpr ⟨.number ['2'], by simp, rfl⟩, rfl⟩
  obtain ⟨hboth, hbothText⟩ := (hb ⟨s, [⟨0, 1⟩, ⟨1, 2⟩]⟩).resolved hresolved
  obtain ⟨hone, honeText⟩ := (hb ⟨s, [⟨0, 1⟩]⟩).unresolved hmissing
  refine ⟨t, s, toOption_eq_some.mp hparse, hboth.trans ?_, hbothText.trans ?_, hone.trans ?_, honeText⟩
  · decide +kernel
  · decide +kernel
  · decide +kernel

end GrammarCheck.Template
