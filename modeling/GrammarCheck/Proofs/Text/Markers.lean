import GrammarCheck.Proofs.Analysis.Places
import GrammarCheck.Text.Marker

/-! Marking and stripping. A tag has its first character nowhere else, so no occurrence of a tag reaches over the edge of
another one: the first opening tag of a marked text is the one that was put there, and so is the closing tag behind it.
What is stripped can be put back where the span says. -/

namespace GrammarCheck.Text

variable {phrase text before after : List Char}

/-- The first character of a phrase stands nowhere else in it. -/
def StartsOnce (phrase : List Char) : Prop := ∃ first others, phrase = first :: others ∧ first ∉ others

/-- A phrase that starts in front of an occurrence of itself and reaches into it would hold its first character twice. -/
theorem StartsOnce.isPrefix (hphrase : StartsOnce phrase) (hne : before ≠ [])
    (h : phrase <+: before ++ (phrase ++ after)) : phrase <+: before := by
  rcases List.prefix_or_prefix_of_prefix h (List.prefix_append before _) with hwhole | hpart
  · exact hwhole
  · obtain ⟨first, others, rfl, hfirst⟩ := hphrase
    obtain ⟨c, front, rfl⟩ := List.exists_cons_of_ne_nil hne
    obtain ⟨tail, htail⟩ := hpart
    have hothers : front ++ tail = others := (List.cons.inj htail).2
    cases tail with
    | nil =>
      rw [List.append_nil] at htail
      exact htail ▸ List.prefix_rfl
    | cons d tail =>
      -- The part behind the seam starts with the first character of the occurrence there.
      have hbehind : d :: tail <+: first :: others ++ after := by
        rwa [← htail, List.prefix_append_right_inj, htail] at h
      have hd : d = first := (List.cons_prefix_cons.mp hbehind).1
      have hmem : d ∈ others := hothers ▸ List.mem_append_right front List.mem_cons_self
      exact absurd (hd ▸ hmem) hfirst

theorem splitAtFirst?_append (hphrase : StartsOnce phrase) (hbefore : ¬phrase <:+: before) (after : List Char) :
    splitAtFirst? phrase (before ++ (phrase ++ after)) = some (before, after) := by
  induction before with
  | nil =>
    obtain ⟨first, others, rfl, -⟩ := hphrase
    have hstart : dropStart? (first :: others) (first :: others ++ after) = some after := dropStart?_append _ after
    rw [List.nil_append, List.cons_append, splitAtFirst?, ← List.cons_append, hstart]
  | cons c before ih =>
    have hnone : dropStart? phrase (c :: (before ++ (phrase ++ after))) = none := by
      rw [Option.eq_none_iff_forall_ne_some]
      intro rest hrest
      have hprefix : phrase <+: (c :: before) ++ (phrase ++ after) :=
        ⟨rest, (eq_append_of_dropStart? hrest).symm⟩
      exact hbefore (hphrase.isPrefix (List.cons_ne_nil _ _) hprefix).isInfix
    have hrest : ¬phrase <:+: before := fun hinfix => hbefore (List.infix_cons hinfix)
    rw [List.cons_append, splitAtFirst?, hnone]
    dsimp only
    rw [ih hrest]
    rfl

namespace Marker

open Analysis

variable {pre mid post : List Char}

theorem startsOnce_openTag : StartsOnce openTag := ⟨'<', "marker>".toList, by decide, by decide⟩

theorem startsOnce_closeTag : StartsOnce closeTag := ⟨'<', "/marker>".toList, by decide, by decide⟩

theorem stripChars_marked (hpre : ¬openTag <:+: pre) (hmid : ¬closeTag <:+: mid) (post : List Char) :
    stripChars (pre ++ (openTag ++ (mid ++ (closeTag ++ post)))) =
      (pre ++ mid ++ post, some ⟨byteLength pre, byteLength pre + byteLength mid⟩) := by
  have hopen := splitAtFirst?_append startsOnce_openTag hpre (mid ++ (closeTag ++ post))
  have hclose := splitAtFirst?_append startsOnce_closeTag hmid post
  simp only [stripChars, hopen, hclose]

/-- A span that is stripped lies around what stood between the tags. -/
theorem exists_parts_of_stripChars {text plain : List Char} {span : Span} (h : stripChars text = (plain, some span)) :
    ∃ pre mid post, text = pre ++ openTag ++ mid ++ closeTag ++ post ∧ plain = pre ++ (mid ++ post) ∧
      span = ⟨byteLength pre, byteLength pre + byteLength mid⟩ := by
  unfold stripChars at h
  split at h
  · cases h
  · rename_i pre rest hopen
    split at h
    · cases h
    · rename_i mid post hclose
      obtain ⟨hplain, hspan⟩ := Prod.mk.inj h
      have htext := eq_append_of_splitAtFirst? hopen
      have hrest := eq_append_of_splitAtFirst? hclose
      refine ⟨pre, mid, post, ?_, ?_, (Option.some.inj hspan).symm⟩
      · rw [htext, hrest]
        simp only [List.append_assoc]
      · rw [← hplain, List.append_assoc]

theorem splitAtByte_append (front back : List Char) : splitAtByte (byteLength front) (front ++ back) = (front, back) := by
  induction front with
  | nil =>
    cases back with
    | nil => rfl
    | cons c back => exact if_pos c.utf8Size_pos
  | cons c front ih =>
    have hlong : ¬byteLength (c :: front) < c.utf8Size := by
      rw [byteLength_cons]
      omega
    rw [List.cons_append, splitAtByte, if_neg hlong, byteLength_cons, Nat.add_sub_cancel_left, ih]

theorem mark_append (pre mid post : List Char) :
    mark (pre ++ (mid ++ post)) ⟨byteLength pre, byteLength pre + byteLength mid⟩ =
      pre ++ openTag ++ mid ++ closeTag ++ post := by
  have hsize : Span.size ⟨byteLength pre, byteLength pre + byteLength mid⟩ = byteLength mid := by
    rw [Span.size, Nat.add_sub_cancel_left]
  simp only [mark, hsize, splitAtByte_append]

/-- Stripping takes back what marking did, whatever the parts around the tags are, unless they hold a tag that comes
before; and marking the bytes that were stripped gives back the text. -/
theorem strip_inverts_mark :
    (∀ pre mid post : String, ¬openTag <:+: pre.toList → ¬closeTag <:+: mid.toList →
      strip (pre ++ "<marker>" ++ mid ++ "</marker>" ++ post) =
        (pre ++ mid ++ post, some ⟨pre.utf8ByteSize, pre.utf8ByteSize + mid.utf8ByteSize⟩)) ∧
    ∀ (text plain : String) (span : Span), strip text = (plain, some span) →
      IsBoundary plain.toList span.start ∧ IsBoundary plain.toList span.stop ∧ span.start ≤ span.stop ∧
        text = String.ofList (mark plain.toList span) := by
  constructor
  · intro pre mid post hpre hmid
    have hsize (s : String) : byteLength s.toList = s.utf8ByteSize := by
      rw [← utf8ByteSize_ofList, String.ofList_toList]
    have hchars := stripChars_marked hpre hmid post.toList
    have htext : (pre ++ "<marker>" ++ mid ++ "</marker>" ++ post).toList =
        pre.toList ++ (openTag ++ (mid.toList ++ (closeTag ++ post.toList))) := by
      simp only [String.toList_append, List.append_assoc]
      rfl
    have hplain : String.ofList (pre.toList ++ mid.toList ++ post.toList) = pre ++ mid ++ post := by
      simp only [String.ofList_append, String.ofList_toList]
    rw [strip, htext, hchars]
    dsimp only
    rw [hplain, hsize, hsize]
  · intro text plain span h
    have hchars : stripChars text.toList = (plain.toList, some span) := by
      cases hstrip : stripChars text.toList with
      | mk chars found =>
        rw [strip, hstrip] at h
        obtain ⟨rfl, rfl⟩ := Prod.mk.inj h
        rw [String.toList_ofList]
    obtain ⟨pre, mid, post, htext, hplain, rfl⟩ := exists_parts_of_stripChars hchars
    rw [hplain, mark_append, ← htext, String.ofList_toList]
    have hstop : byteLength (pre ++ mid) = byteLength pre + byteLength mid := byteLength_append pre mid
    exact ⟨⟨pre, mid ++ post, rfl, rfl⟩, ⟨pre ++ mid, post, (List.append_assoc _ _ _).symm, hstop⟩,
      Nat.le_add_right _ _, rfl⟩

/-- Parts that end in the middle of a tag, and a tag behind. -/
theorem strip_inverts_mark_brokenTags :
    ¬openTag <:+: "ä<mark".toList ∧ ¬closeTag <:+: "er></mark".toList ∧
      strip ("ä<mark" ++ "<marker>" ++ "er></mark" ++ "</marker>" ++ "er><marker>") =
        ("ä<mark" ++ "er></mark" ++ "er><marker>", some ⟨7, 16⟩) ∧
      "ä<mark<marker>er></mark</marker>er><marker>" =
        String.ofList (mark "ä<marker></marker><marker>".toList ⟨7, 16⟩) := by
  have hpre : ¬openTag <:+: "ä<mark".toList := by decide +kernel
  have hmid : ¬closeTag <:+: "er></mark".toList := by decide +kernel
  have hstrip := strip_inverts_mark.1 "ä<mark" "er></mark" "er><marker>" hpre hmid
  obtain ⟨-, -, -, hmark⟩ := strip_inverts_mark.2 _ _ _ hstrip
  exact ⟨hpre, hmid, hstrip, hmark⟩

end Marker

end GrammarCheck.Text
