import GrammarCheck.Proofs.Resolution
import GrammarCheck.Proofs.Rule.WellFormed
import GrammarCheck.Proofs.Search.BoundSpans

/-! The texts of matches. A compiled rule refers to its own positions only, and a match binds all of them, so what a
reference gives is left out of a text only where it hides a misspelled token. -/

namespace GrammarCheck

namespace Match

theorem mem_allSuggestions {own : List String} {templates : List Template} {b : Bindings} {text : String} :
    text ∈ allSuggestions own templates b ↔ text ∈ own ∨ ∃ t ∈ templates, t.renderText? b = some text := by
  rw [allSuggestions, Template.mem_foldl_addDistinct, List.mem_filterMap]

theorem nodup_allSuggestions {own : List String} (h : own.Nodup) (templates : List Template) (b : Bindings) :
    (allSuggestions own templates b).Nodup := Template.nodup_foldl_addDistinct h

/-- All texts of a rule are shown in a match. -/
structure ShowsTexts (r : Rule) (s : Sentence) (m : Match) : Prop where
  shortMessage : ∀ t, r.shortMessage = some t →
    ∃ text, t.renderText? ⟨s, m.positions⟩ = some text ∧ m.shortMessage = some text
  /-- Each suggestion of the message stands at its place in the text, and among the suggestions. -/
  inMessage : ∀ before pieces after, r.message.segments = before ++ .suggestion pieces :: after →
    ∃ text, Template.renderPieces? ⟨s, m.positions⟩ pieces = some text ∧ text ∈ m.suggestions ∧
      m.message = (Template.render ⟨before⟩ ⟨s, m.positions⟩).text ++ ("<suggestion>" ++ text ++ "</suggestion>") ++
        (Template.render ⟨after⟩ ⟨s, m.positions⟩).text
  besideMessage : ∀ t ∈ r.suggestions, ∃ text, t.renderText? ⟨s, m.positions⟩ = some text ∧ text ∈ m.suggestions

variable {r : Rule} {s : Sentence} {p : Point}

theorem nodup_suggestions_ofPoint (r : Rule) (s : Sentence) (p : Point) : (ofPoint r s p).suggestions.Nodup := by
  refine nodup_allSuggestions ?_ _ _
  rw [Template.suggestions_render]
  exact Template.nodup_foldl_addDistinct List.nodup_nil

/-- If all references give a text, nothing is left out. -/
theorem showsTexts_ofPoint (h : ∀ t ∈ r.templates, ∀ ref ∈ t.references,
    ∃ text, ref.resolve? ⟨s, (ofPoint r s p).positions⟩ = some text) : (ofPoint r s p).ShowsTexts r s := by
  constructor
  case shortMessage =>
    intro t ht
    have hmem : t ∈ r.templates :=
      List.mem_cons_of_mem _ (List.mem_append_left _ (Option.mem_toList.mpr ht))
    obtain ⟨text, htext⟩ := Template.exists_renderText? (h t hmem)
    have hown : (ofPoint r s p).shortMessage =
        r.shortMessage.bind (·.renderText? ⟨s, (ofPoint r s p).positions⟩) := rfl
    exact ⟨text, htext, by rw [hown, ht, Option.bind_some, htext]⟩
  case inMessage =>
    intro before pieces after hsegments
    have hpieces : ∀ ref ∈ pieces.filterMap Template.Piece.reference?, ref ∈ r.message.references := by
      intro ref href
      unfold Template.references
      rw [hsegments]
      exact List.mem_flatMap.mpr ⟨.suggestion pieces, List.mem_append_right _ List.mem_cons_self, href⟩
    obtain ⟨text, htext⟩ := Template.exists_renderPieces? fun ref href =>
      h r.message List.mem_cons_self ref (hpieces ref href)
    refine ⟨text, htext, mem_allSuggestions.mpr (Or.inl ?_), ?_⟩
    · rw [Template.suggestions_render, Template.mem_foldl_addDistinct]
      refine Or.inr (List.mem_filterMap.mpr ⟨.suggestion pieces, ?_, htext⟩)
      rw [hsegments]
      exact List.mem_append_right _ List.mem_cons_self
    · have hown : (ofPoint r s p).message = (Template.render ⟨before ++ [.suggestion pieces] ++ after⟩
          ⟨s, (ofPoint r s p).positions⟩).text := by
        rw [List.append_assoc, List.singleton_append, ← hsegments]
        rfl
      have hsuggestion : (Template.render ⟨[.suggestion pieces]⟩ ⟨s, (ofPoint r s p).positions⟩).text =
          "<suggestion>" ++ text ++ "</suggestion>" :=
        congrArg Template.Rendered.text (Template.renderSegment_of_some htext ⟨"", []⟩)
      rw [hown, Template.text_render_append, Template.text_render_append, hsuggestion]
  case besideMessage =>
    intro t ht
    obtain ⟨text, htext⟩ := Template.exists_renderText? (h t (List.mem_cons_of_mem _ (List.mem_append_right _ ht)))
    exact ⟨text, htext, mem_allSuggestions.mpr (Or.inr ⟨t, ht, htext⟩)⟩

end Match

namespace Rule

/-- A reference in a text of a compiled rule gives no text for a match only if it hides a misspelled token. If none may,
all texts are shown; no suggestion is made twice. -/
theorem findMatches_texts {r : Rule} (hr : r.IsCompiled) {s : Sentence} {limit : Option Nat} {ms : List Match}
    (h : r.findMatches s limit = .ok ms) {m : Match} (hm : m ∈ ms) :
    (∀ t ∈ r.templates, ∀ ref ∈ t.references,
      (ref.resolve? ⟨s, m.positions⟩ = none ↔ ref.Hides ⟨s, m.positions⟩)) ∧
      ((∀ t ∈ r.templates, ∀ ref ∈ t.references, ref.hideMisspelled = false) → m.ShowsTexts r s) ∧
      m.suggestions.Nodup := by
  obtain ⟨i, p, steps, hi, -, -, rfl, -, hassigned⟩ := exists_assigned_of_mem_findMatches h hm
  have hfits : (Bindings.mk s (Match.ofPoint r s p).positions).Fits :=
    start_lt_of_mem_boundSpans (hassigned.pairwise (Nat.le_of_lt hi)) (hassigned.liesBetween (Nat.le_of_lt hi)) _
  have hresolve : ∀ t ∈ r.templates, ∀ ref ∈ t.references, (ref.resolve? ⟨s, (Match.ofPoint r s p).positions⟩ = none ↔
      ref.Hides ⟨s, (Match.ofPoint r s p).positions⟩) := by
    intro t ht ref href
    obtain ⟨hlow, hhigh⟩ := hr.refersWithin t ht ref href
    rw [← Match.length_positions_ofPoint r s p] at hhigh
    exact Reference.resolve?_eq_none_iff hfits hlow hhigh
  refine ⟨hresolve, fun hshown => Match.showsTexts_ofPoint fun t ht ref href => ?_,
    Match.nodup_suggestions_ofPoint r s p⟩
  refine Option.ne_none_iff_exists'.mp fun hnone => ?_
  have hhides := ((hresolve t ht ref href).mp hnone).hideMisspelled
  rw [hshown t ht ref href] at hhides
  cases hhides

/-- All texts refer to positions, one of them to one that may be left out. -/
def allTexts : String :=
  "rule R \x7b pattern \x7b [\"of\"] [\"course\", min=0] \x7d message \"<suggestion>\\1 the</suggestion> or " ++
    "<suggestion>\\2\\1</suggestion>\"; short \"not \\1\"; suggestion \"\\1\"; \x7d"

/-- The position that took no token gives the empty text, and the suggestion that is made twice is kept once. -/
theorem findMatches_allTexts :
    ∃ (r : Rule) (s : Sentence) (ms : List Match) (m : Match), r.IsCompiled ∧ r.findMatches s none = .ok ms ∧ m ∈ ms ∧
      m.positions = [⟨0, 1⟩, .empty 1] ∧ m.message = "<suggestion>of the</suggestion> or <suggestion>of</suggestion>" ∧
      m.shortMessage = some "not of" ∧ m.suggestions = ["of the", "of"] ∧
      (∀ t ∈ r.templates, ∀ ref ∈ t.references,
        (ref.resolve? ⟨s, m.positions⟩ = none ↔ ref.Hides ⟨s, m.positions⟩)) ∧
      m.ShowsTexts r s ∧ m.suggestions.Nodup := by
  have hrun : ofFirstMatch? (fun r m => ((r.templates.flatMap (·.references)).all (!·.hideMisspelled), m.positions,
      m.message, m.shortMessage, m.suggestions)) allTexts (.ofTokens [.new "of" []]) =
      some (true, [⟨0, 1⟩, .empty 1], "<suggestion>of the</suggestion> or <suggestion>of</suggestion>", some "not of",
        ["of the", "of"]) := by decide +kernel
  obtain ⟨file, context, d, r, ms, m, hread, hcontext, hcomes, hms, hm, hrun⟩ := exists_of_ofFirstMatch? hrun
  simp only [Prod.mk.injEq] at hrun
  obtain ⟨hshown, hpositions, hmessage, hshort, hsuggestions⟩ := hrun
  have hr : r.IsCompiled := hcomes.isCompiled
  obtain ⟨hresolve, htexts, hnodup⟩ := findMatches_texts hr hms hm
  refine ⟨r, _, ms, m, hr, hms, hm, hpositions, hmessage, hshort, hsuggestions, hresolve, htexts ?_, hnodup⟩
  intro t ht ref href
  have hown := List.all_eq_true.mp hshown ref (List.mem_flatMap.mpr ⟨t, ht, href⟩)
  rwa [Bool.not_eq_true'] at hown

end Rule

end GrammarCheck
