import GrammarCheck.Template
import Mathlib.Data.List.Nodup

/-! What references and templates give. A reference to a position that is bound is resolved unless its token is hidden as
misspelled, and where all references of a template are resolved, nothing of it is left out. -/

namespace GrammarCheck

namespace Bindings

variable {b : Bindings} {n : Nat}

/-- The positions that hold tokens hold tokens of the sentence. -/
def Fits (b : Bindings) : Prop := ∀ span ∈ b.positions, span.isEmpty = false → span.start < b.sentence.size

/-- The text that a position stands for: that of its first token, or the empty one if it took none. -/
inductive FirstText (b : Bindings) (n : Nat) : String → Prop
  | empty {span} (hspan : b.span? n = some span) (hempty : span.isEmpty = true) : FirstText b n ""
  | first {span t} (hspan : b.span? n = some span) (hne : span.isEmpty = false)
      (ht : b.sentence.token? span.start = some t) : FirstText b n t.text

theorem firstText_of_firstText? {text : String} (h : b.firstText? n = some text) : b.FirstText n text := by
  unfold firstText? at h
  split at h
  · cases h
  · rename_i span hspan
    cases hempty : span.isEmpty with
    | true =>
      rw [hempty, if_pos rfl, Option.some_inj] at h
      exact h ▸ .empty hspan hempty
    | false =>
      rw [hempty, if_neg Bool.false_ne_true] at h
      obtain ⟨t, ht, rfl⟩ := Option.map_eq_some_iff.mp h
      exact .first hspan hempty ht

/-- The first positions are bound to the same tokens among all of them. -/
theorem FirstText.of_take {s : Sentence} {positions : List Span} {k : Nat} {text : String}
    (h : (Bindings.mk s (positions.take k)).FirstText n text) : (Bindings.mk s positions).FirstText n text := by
  have hspan {span : Span} (h : (Bindings.mk s (positions.take k)).span? n = some span) :
      (Bindings.mk s positions).span? n = some span := by
    cases n with
    | zero => cases h
    | succ n =>
      have htake : (positions.take k)[n]? = some span := h
      rw [List.getElem?_take] at htake
      split at htake
      · exact htake
      · cases htake
  cases h with
  | empty hown hempty => exact .empty (hspan hown) hempty
  | first hown hne ht => exact .first (hspan hown) hne ht

theorem exists_span? (hlow : 1 ≤ n) (hhigh : n ≤ b.positions.length) : ∃ span ∈ b.positions, b.span? n = some span := by
  obtain ⟨i, rfl⟩ := Nat.exists_eq_add_of_le' hlow
  have hspan : b.span? (i + 1) = some b.positions[i] := List.getElem?_eq_getElem hhigh
  exact ⟨_, List.getElem_mem _, hspan⟩

theorem Fits.exists_token (h : b.Fits) {span : Span} (hspan : span ∈ b.positions) (hne : span.isEmpty = false) :
    ∃ t, b.sentence.token? span.start = some t :=
  ⟨_, List.getElem?_eq_getElem (h span hspan hne)⟩

theorem Fits.exists_firstText? (h : b.Fits) (hlow : 1 ≤ n) (hhigh : n ≤ b.positions.length) :
    ∃ text, b.firstText? n = some text := by
  obtain ⟨span, hmem, hspan⟩ := exists_span? hlow hhigh
  unfold firstText?
  rw [hspan]
  dsimp only
  cases hempty : span.isEmpty with
  | true => exact ⟨"", if_pos rfl⟩
  | false =>
    obtain ⟨t, ht⟩ := h.exists_token hmem hempty
    exact ⟨t.text, by rw [if_neg Bool.false_ne_true, ht, Option.map_some]⟩

end Bindings

namespace Reference

/-- The reference leaves out misspelled tokens, and the first token of its position is one. -/
structure Hides (r : Reference) (b : Bindings) : Prop where
  hideMisspelled : r.hideMisspelled = true
  misspelled : ∃ span t, b.span? r.position = some span ∧ span.isEmpty = false ∧
    b.sentence.token? span.start = some t ∧ t.misspelled = true

/-- A reference to a position that is bound gives no text only if it hides the token. -/
theorem resolve?_eq_none_iff {r : Reference} {b : Bindings} (hb : b.Fits) (hlow : 1 ≤ r.position)
    (hhigh : r.position ≤ b.positions.length) : r.resolve? b = none ↔ r.Hides b := by
  obtain ⟨span, hmem, hspan⟩ := Bindings.exists_span? hlow hhigh
  have hbound {own : Span} (hown : b.span? r.position = some own) : own = span := by
    rw [hspan, Option.some_inj] at hown
    exact hown.symm
  unfold resolve?
  rw [hspan, Option.bind_eq_bind, Option.bind_some]
  cases hempty : span.isEmpty with
  | true =>
    rw [if_pos rfl]
    refine ⟨fun h => ?_, fun h => ?_⟩
    · cases h
    · obtain ⟨own, t, hown, hne, -⟩ := h.misspelled
      rw [hbound hown, hempty] at hne
      cases hne
  | false =>
    obtain ⟨t, ht⟩ := hb.exists_token hmem hempty
    rw [if_neg Bool.false_ne_true, ht, Option.bind_eq_bind, Option.bind_some]
    split
    case isTrue hhidden =>
      obtain ⟨hhide, hmisspelled⟩ := Bool.and_eq_true_iff.mp hhidden
      exact ⟨fun _ => ⟨hhide, span, t, hspan, hempty, ht, hmisspelled⟩, fun _ => rfl⟩
    case isFalse hshown =>
      refine ⟨fun h => ?_, fun h => ?_⟩
      · cases h
      · obtain ⟨own, t', hown, -, ht', hmisspelled⟩ := h.misspelled
        rw [hbound hown, ht, Option.some_inj] at ht'
        exact absurd (Bool.and_eq_true_iff.mpr ⟨h.hideMisspelled, ht' ▸ hmisspelled⟩) hshown

end Reference

namespace Template

variable {b : Bindings}

theorem exists_renderPieces? {pieces : List Piece}
    (h : ∀ r ∈ pieces.filterMap Piece.reference?, ∃ text, r.resolve? b = some text) :
    ∃ text, renderPieces? b pieces = some text := by
  induction pieces with
  | nil => exact ⟨"", rfl⟩
  | cons p rest ih =>
    have hfirst : ∃ first, Piece.render? b p = some first := by
      cases p with
      | text s => exact ⟨s, rfl⟩
      | reference r => exact h r (List.mem_filterMap.mpr ⟨.reference r, List.mem_cons_self, rfl⟩)
    obtain ⟨first, hfirst⟩ := hfirst
    obtain ⟨others, hothers⟩ := ih fun r hr => by
      obtain ⟨p', hp', hown⟩ := List.mem_filterMap.mp hr
      exact h r (List.mem_filterMap.mpr ⟨p', List.mem_cons_of_mem _ hp', hown⟩)
    exact ⟨first ++ others, by rw [renderPieces?, hfirst, hothers]; rfl⟩

theorem references_cons (segment : Segment) (rest : List Segment) :
    references ⟨segment :: rest⟩ = references ⟨[segment]⟩ ++ references ⟨rest⟩ := by
  unfold references
  rw [List.flatMap_cons, List.flatMap_singleton]

theorem exists_renderSegments? {segments : List Segment}
    (h : ∀ r ∈ references ⟨segments⟩, ∃ text, r.resolve? b = some text) :
    ∃ text, renderSegments? b segments = some text := by
  induction segments with
  | nil => exact ⟨"", rfl⟩
  | cons segment rest ih =>
    rw [references_cons, List.forall_mem_append] at h
    obtain ⟨hsegment, hrest⟩ := h
    have hfirst : ∃ first, renderSegmentText? b segment = some first := by
      cases segment with
      | piece p =>
        cases p with
        | text s => exact ⟨s, rfl⟩
        | reference r => exact hsegment r List.mem_cons_self
      | suggestion pieces =>
        refine exists_renderPieces? fun r hr => hsegment r ?_
        unfold references
        rw [List.flatMap_singleton]
        exact hr
    obtain ⟨first, hfirst⟩ := hfirst
    obtain ⟨others, hothers⟩ := ih hrest
    exact ⟨first ++ others, by rw [renderSegments?, hfirst, hothers]; rfl⟩

theorem exists_renderText? {t : Template} (h : ∀ r ∈ t.references, ∃ text, r.resolve? b = some text) :
    ∃ text, t.renderText? b = some text := exists_renderSegments? h

theorem mem_foldl_addDistinct {texts known : List String} {text : String} :
    text ∈ texts.foldl addDistinct known ↔ text ∈ known ∨ text ∈ texts := by
  induction texts generalizing known with
  | nil => simp
  | cons first rest ih =>
    have hadd : text ∈ addDistinct known first ↔ text ∈ known ∨ text = first := by
      unfold addDistinct
      split
      case isTrue hmem =>
        exact ⟨Or.inl, fun h => h.elim id fun heq => heq ▸ List.contains_iff_mem.mp hmem⟩
      case isFalse => rw [List.mem_append, List.mem_singleton]
    rw [List.foldl_cons, ih, hadd, List.mem_cons, or_assoc]

theorem nodup_foldl_addDistinct {texts known : List String} (h : known.Nodup) :
    (texts.foldl addDistinct known).Nodup := by
  induction texts generalizing known with
  | nil => exact h
  | cons first rest ih =>
    refine ih ?_
    unfold addDistinct
    split
    case isTrue => exact h
    case isFalse hmem =>
      have hnew : first ∉ known := fun hfirst => hmem (List.contains_iff_mem.mpr hfirst)
      rw [← List.concat_eq_append]
      exact h.concat hnew

theorem renderSegment_of_none {pieces : List Piece} (h : renderPieces? b pieces = none) (r : Rendered) :
    renderSegment b r (.suggestion pieces) = r := by
  rw [renderSegment, h]

theorem renderSegment_of_some {pieces : List Piece} {s : String} (h : renderPieces? b pieces = some s) (r : Rendered) :
    renderSegment b r (.suggestion pieces) =
      ⟨r.text ++ "<suggestion>" ++ s ++ "</suggestion>", addDistinct r.suggestions s⟩ := by
  rw [renderSegment, h]

/-- The suggestion that a part of a message makes. -/
def suggestion? (b : Bindings) : Segment → Option String
  | .piece _ => none
  | .suggestion pieces => renderPieces? b pieces

theorem suggestions_render (t : Template) (b : Bindings) :
    (t.render b).suggestions = (t.segments.filterMap (suggestion? b)).foldl addDistinct [] := by
  have hfold (segments : List Segment) (r : Rendered) : (segments.foldl (renderSegment b) r).suggestions =
      (segments.filterMap (suggestion? b)).foldl addDistinct r.suggestions := by
    induction segments generalizing r with
    | nil => rfl
    | cons segment rest ih =>
      rw [List.foldl_cons, ih, List.filterMap_cons]
      cases segment with
      | piece p => rfl
      | suggestion pieces =>
        have hown : suggestion? b (.suggestion pieces) = renderPieces? b pieces := rfl
        rw [hown]
        cases hpieces : renderPieces? b pieces with
        | none => rw [renderSegment_of_none hpieces]
        | some s => rw [renderSegment_of_some hpieces]; rfl
  exact hfold t.segments ⟨"", []⟩

theorem text_renderSegment (b : Bindings) (r : Rendered) (segment : Segment) :
    (renderSegment b r segment).text = r.text ++ (render ⟨[segment]⟩ b).text := by
  cases segment with
  | piece p =>
    show r.text ++ _ = r.text ++ ("" ++ _)
    rw [String.empty_append]
  | suggestion pieces =>
    show (renderSegment b r (.suggestion pieces)).text = r.text ++ (renderSegment b ⟨"", []⟩ (.suggestion pieces)).text
    cases hpieces : renderPieces? b pieces with
    | none => rw [renderSegment_of_none hpieces, renderSegment_of_none hpieces, String.append_empty]
    | some s =>
      rw [renderSegment_of_some hpieces, renderSegment_of_some hpieces, String.empty_append, String.append_assoc,
        String.append_assoc, String.append_assoc]

theorem text_foldl_renderSegment (b : Bindings) (segments : List Segment) (r : Rendered) :
    (segments.foldl (renderSegment b) r).text = r.text ++ (render ⟨segments⟩ b).text := by
  induction segments generalizing r with
  | nil => exact (String.append_empty).symm
  | cons segment rest ih =>
    have hown : (render ⟨segment :: rest⟩ b).text = (render ⟨[segment]⟩ b).text ++ (render ⟨rest⟩ b).text :=
      ih (renderSegment b ⟨"", []⟩ segment)
    rw [List.foldl_cons, ih, text_renderSegment, hown, String.append_assoc]

/-- The text of a template is that of its parts, one after the other. -/
theorem text_render_append (before after : List Segment) (b : Bindings) :
    (render ⟨before ++ after⟩ b).text = (render ⟨before⟩ b).text ++ (render ⟨after⟩ b).text := by
  have hfold : render ⟨before ++ after⟩ b = after.foldl (renderSegment b) (render ⟨before⟩ b) :=
    List.foldl_append
  rw [hfold, text_foldl_renderSegment]

end Template

end GrammarCheck
