import GrammarCheck.Check.Checker

/-! What is found in a sentence depends on its tokens alone, whatever index the sentence may hold. -/

namespace GrammarCheck

variable (tokens : List Token) (held held' : Option WordIndex)

theorem Element.matchesAt_held (e : Element) (i : Nat) (positions : List Span) :
    e.matchesAt ⟨tokens, held⟩ i (some ⟨⟨tokens, held⟩, positions⟩) =
      e.matchesAt ⟨tokens, held'⟩ i (some ⟨⟨tokens, held'⟩, positions⟩) := rfl

theorem Element.matchesAt_none_held (e : Element) (i : Nat) :
    e.matchesAt ⟨tokens, held⟩ i none = e.matchesAt ⟨tokens, held'⟩ i none := rfl

namespace Point

variable (p : Point) (table : FeatureTable) (e : Element)

theorem matchesAt_bindings?_held (i : Nat) :
    e.matchesAt ⟨tokens, held⟩ i (p.bindings? ⟨tokens, held⟩ e) =
      e.matchesAt ⟨tokens, held'⟩ i (p.bindings? ⟨tokens, held'⟩ e) := by
  unfold bindings?
  split
  · exact e.matchesAt_held tokens held held' i _
  · exact e.matchesAt_none_held tokens held held' i

theorem takeFrom_held : p.takeFrom table ⟨tokens, held⟩ e = p.takeFrom table ⟨tokens, held'⟩ e := by
  funext i
  have hmatches : (fun j => e.matchesAt ⟨tokens, held⟩ j (p.bindings? ⟨tokens, held⟩ e)) =
      fun j => e.matchesAt ⟨tokens, held'⟩ j (p.bindings? ⟨tokens, held'⟩ e) :=
    funext fun j => p.matchesAt_bindings?_held tokens held held' e j
  unfold takeFrom
  rw [hmatches]
  rfl

theorem successors_held : p.successors table ⟨tokens, held⟩ e = p.successors table ⟨tokens, held'⟩ e := by
  have hstarts : p.starts ⟨tokens, held⟩ = p.starts ⟨tokens, held'⟩ := rfl
  unfold successors
  rw [p.takeFrom_held tokens held held' table e, hstarts]

end Point

theorem Search.explore_held (table : FeatureTable) (limit : Option Nat) (elements : List Element) :
    explore table ⟨tokens, held⟩ limit elements = explore table ⟨tokens, held'⟩ limit elements := by
  induction elements with
  | nil => rfl
  | cons e rest ih =>
    funext p
    rw [explore, explore, ih, p.successors_held tokens held held' table e]

namespace Template

variable (positions : List Span)

theorem render?_held : Piece.render? ⟨⟨tokens, held⟩, positions⟩ = Piece.render? ⟨⟨tokens, held'⟩, positions⟩ := by
  funext p
  cases p <;> rfl

theorem renderPieces?_held :
    renderPieces? ⟨⟨tokens, held⟩, positions⟩ = renderPieces? ⟨⟨tokens, held'⟩, positions⟩ := by
  funext pieces
  induction pieces with
  | nil => rfl
  | cons p rest ih => rw [renderPieces?, renderPieces?, ih, render?_held tokens held held' positions]

theorem render_held (t : Template) :
    t.render ⟨⟨tokens, held⟩, positions⟩ = t.render ⟨⟨tokens, held'⟩, positions⟩ := by
  have hsegment : renderSegment ⟨⟨tokens, held⟩, positions⟩ = renderSegment ⟨⟨tokens, held'⟩, positions⟩ := by
    funext rendered segment
    cases segment with
    | piece p => rw [renderSegment, renderSegment, render?_held tokens held held' positions]
    | suggestion pieces => rw [renderSegment, renderSegment, renderPieces?_held tokens held held' positions]
  rw [render, render, hsegment]

theorem renderText?_held (t : Template) :
    t.renderText? ⟨⟨tokens, held⟩, positions⟩ = t.renderText? ⟨⟨tokens, held'⟩, positions⟩ := by
  have hsegment : renderSegmentText? ⟨⟨tokens, held⟩, positions⟩ =
      renderSegmentText? ⟨⟨tokens, held'⟩, positions⟩ := by
    funext segment
    cases segment with
    | piece p => rw [renderSegmentText?, renderSegmentText?, render?_held tokens held held' positions]
    | suggestion pieces => rw [renderSegmentText?, renderSegmentText?, renderPieces?_held tokens held held' positions]
  unfold renderText?
  induction t.segments with
  | nil => rfl
  | cons segment rest ih => rw [renderSegments?, renderSegments?, ih, hsegment]

end Template

theorem Match.ofPoint_held (r : Rule) (p : Point) : ofPoint r ⟨tokens, held⟩ p = ofPoint r ⟨tokens, held'⟩ p := by
  have htexts : (fun t : Template => t.renderText? ⟨⟨tokens, held⟩, boundSpans p.taken r.positionCount⟩) =
      fun t => t.renderText? ⟨⟨tokens, held'⟩, boundSpans p.taken r.positionCount⟩ :=
    funext fun t => t.renderText?_held tokens held held' _
  simp only [ofPoint, allSuggestions, htexts, Template.render_held tokens held held']

namespace Rule

variable (r : Rule) (limit : Option Nat)

theorem matchesFrom_held (i : Nat) (last : Option Span) :
    r.matchesFrom ⟨tokens, held⟩ limit i last = r.matchesFrom ⟨tokens, held'⟩ limit i last := by
  -- The induction is on the tokens that are left, which both searches have in common.
  induction hleft : tokens.length - i using Nat.strongRecOn generalizing i last with
  | ind left ih =>
    rw [matchesFrom.eq_def r ⟨tokens, held⟩, matchesFrom.eq_def r ⟨tokens, held'⟩]
    by_cases hi : i < tokens.length
    · have hsize : i < (Sentence.mk tokens held).size := hi
      have hsize' : i < (Sentence.mk tokens held').size := hi
      have hmatch : r.matchAt ⟨tokens, held⟩ limit i = r.matchAt ⟨tokens, held'⟩ limit i := by
        rw [matchAt, matchAt, Search.explore_held tokens held held']
      rw [if_pos hsize, if_pos hsize', hmatch]
      refine bind_congr fun found => ?_
      cases found with
      | none => exact ih _ (by omega) (i + 1) last rfl
      | some p =>
        have hlt := r.lt_resume i (Match.ofPoint r ⟨tokens, held'⟩ p)
        have hrest := ih _ (by omega) (r.resume i (Match.ofPoint r ⟨tokens, held'⟩ p))
          (some (Match.ofPoint r ⟨tokens, held'⟩ p).pattern) rfl
        simp only [Match.ofPoint_held tokens held held', hrest]
    · have hsize : ¬i < (Sentence.mk tokens held).size := hi
      have hsize' : ¬i < (Sentence.mk tokens held').size := hi
      rw [if_neg hsize, if_neg hsize']

theorem findMatches_held : r.findMatches ⟨tokens, held⟩ limit = r.findMatches ⟨tokens, held'⟩ limit := by
  rw [findMatches, findMatches, r.matchesFrom_held tokens held held' limit]

theorem findMatches_congr {s s' : Sentence} (h : s.tokens = s'.tokens) (r : Rule) (limit : Option Nat) :
    r.findMatches s limit = r.findMatches s' limit := by
  obtain ⟨tokens, held⟩ := s
  obtain ⟨tokens', held'⟩ := s'
  obtain rfl : tokens = tokens' := h
  exact r.findMatches_held tokens held held' limit

end Rule

end GrammarCheck
