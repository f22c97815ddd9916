import GrammarCheck.Proofs.Analysis.OpeningTag
import GrammarCheck.Proofs.Check.Bytes
import GrammarCheck.Proofs.Check.SentenceStartRule
import GrammarCheck.Proofs.Dictionary
import GrammarCheck.Proofs.Search.Scan

/-! Where the rule on uppercase sentence starts fires. Its elements match a token that opens a sentence and the word behind
it, so the search finds the first word of the sentence or nothing. -/

namespace GrammarCheck.SentenceStart

open Analysis

variable {m : Matcher} {s : Sentence}

theorem isSingle_elements (m : Matcher) : ∀ e ∈ (compiled m).elements, e.IsSingle := by
  intro e he
  have hcases : e = openingElement ∨ e = wordElement m := by simpa [compiled] using he
  rcases hcases with rfl | rfl
  · exact Element.isSingle_single rfl 0
  · exact Element.isSingle_single rfl 1

theorem matchesAt_openingElement (s : Sentence) (i : Nat) :
    openingElement.matchesAt s i none = (s.token? i).any (·.isSentenceStart) := by
  have htag (r : Reading) : (openingElement.condition.baseHolds r && openingElement.condition.tagHolds r) =
      (r.tag == some Token.sentenceStartTag) := by
    cases htag : r.tag with
    | none => simp [Condition.baseHolds, Condition.tagHolds, openingElement, Element.single, htag]
    | some tag => simp [Condition.baseHolds, Condition.tagHolds, openingElement, Element.single, htag, Matcher.accepts]
  have hholds (t : Token) : openingElement.condition.holds t none = t.isSentenceStart := by
    have hreadings : openingElement.condition.readingsHold t = t.isSentenceStart :=
      congrArg t.readings.any (funext htag)
    show (openingElement.condition.readingsHold t != false) = _
    rw [hreadings, Bool.bne_false]
  rw [openingElement, Element.matchesAt_single]
  exact congrArg (s.token? i).any (funext hholds)

theorem matchesAt_wordElement {i : Nat} {t : Token} (ht : s.token? i = some t) (hreadings : t.readings ≠ []) :
    (wordElement m).matchesAt s i none = m.accepts t.text true := by
  have hread : (wordElement m).condition.readingsHold t = true := by
    obtain ⟨r, others, hr⟩ := List.exists_cons_of_ne_nil hreadings
    show t.readings.any (fun _ => true && true) = true
    rw [hr]
    rfl
  rw [wordElement, Element.matchesAt_single, ht, Option.any_some]
  show ((m.accepts t.text true && (wordElement m).condition.readingsHold t) != false) = _
  rw [hread, Bool.and_true, Bool.bne_false]

variable {opening first : Token} {others : List Token}

/-- What the pattern of the word has to accept. -/
def AcceptsLowercaseStart (m : Matcher) : Prop := ∀ text caseSensitive, m.accepts text caseSensitive = true ↔
  ∃ c rest, text.toList = c :: rest ∧ Unicode.isLowercaseLetter c = true ∧ '\n' ∉ rest

/-- The elements match behind no token but the first one. -/
theorem matchInOrder_succ (hs : HasWords s opening first others) (i : Nat) :
    Element.matchInOrder s (compiled m).elements (i + 1) = false := by
  have hnone : openingElement.matchesAt s (i + 1) none = false := by
    rw [matchesAt_openingElement, hs.token?_succ]
    cases ht : (first :: others)[i]? with
    | none => rfl
    | some t => exact (hs.words t (List.mem_of_getElem? ht)).inside
  show (openingElement.matchesAt s (i + 1) none && _) = false
  rw [hnone, Bool.false_and]

theorem matchInOrder_zero (hs : HasWords s opening first others) :
    Element.matchInOrder s (compiled m).elements 0 = m.accepts first.text true := by
  show (openingElement.matchesAt s 0 none && ((wordElement m).matchesAt s 1 none && true)) = _
  rw [matchesAt_openingElement, hs.token?_zero, Option.any_some, hs.opens,
    matchesAt_wordElement hs.token?_one (hs.words first List.mem_cons_self).read, Bool.true_and, Bool.and_true]

/-- The one match that there can be. -/
def firstMatch (m : Matcher) (s : Sentence) : Match :=
  Match.ofPoint (compiled m) s ((Point.start 0).takeEach (compiled m).elements)

theorem findMatches_compiled (hs : HasWords s opening first others) :
    (compiled m).findMatches s none = .ok (if m.accepts first.text true then [firstMatch m s] else []) := by
  have hcompletions (i : Nat) := Rule.completionsAt_of_isSingle (isSingle_elements m) (List.cons_ne_nil _ _) s i
  have hlater (i : Nat) (last : Option Span) : (compiled m).scanFrom s (i + 1) last = [] := by
    refine List.eq_nil_iff_forall_not_mem.mpr fun ⟨j, found⟩ hmem => ?_
    obtain ⟨hle, -, p, hp, -⟩ := Rule.of_mem_scanFrom hmem
    obtain ⟨k, rfl⟩ := Nat.exists_eq_add_of_le' (Nat.le_trans (Nat.le_add_left 1 i) hle)
    rw [hcompletions, matchInOrder_succ hs] at hp
    exact nomatch hp
  have hsize : 0 < s.size := by
    rw [Sentence.size, hs.tokens]
    exact Nat.succ_pos _
  have hfirst := hcompletions 0
  rw [matchInOrder_zero hs] at hfirst
  rw [Rule.findMatches_none, Rule.scan]
  cases haccepts : m.accepts first.text true with
  | true =>
    rw [haccepts, if_pos rfl] at hfirst
    have hhead : ((compiled m).completionsAt s 0).head? = some ((Point.start 0).takeEach (compiled m).elements) := by
      rw [hfirst]
      rfl
    obtain ⟨k, hk⟩ := Nat.exists_eq_add_of_le' ((compiled m).lt_resume 0 (firstMatch m s))
    have hrest (last : Option Span) : (compiled m).scanFrom s ((compiled m).resume 0 (firstMatch m s)) last = [] := by
      rw [hk]
      exact hlater k last
    rw [Rule.scanFrom_of_some hsize hhead, if_neg (Option.some_ne_none _).symm]
    show Except.ok (firstMatch m s :: ((compiled m).scanFrom s ((compiled m).resume 0 (firstMatch m s)) _).map (·.2)) = _
    rw [hrest]
    rfl
  | false =>
    rw [haccepts, if_neg Bool.false_ne_true] at hfirst
    have hhead : ((compiled m).completionsAt s 0).head? = none := by rw [hfirst]; rfl
    rw [Rule.scanFrom_of_none hhead, hlater]
    rfl

/-- The finding for a word that is a character and other ones. -/
def finding (word : Token) (c : Char) (rest : List Char) : Report where
  ruleId := "UPPERCASE_SENTENCE_START"
  subId := "1"
  message := "This sentence does not start with an uppercase letter."
  shortMessage := none
  suggestions := [String.ofList (Unicode.upperForm c ++ rest)]
  tokens := ⟨1, 2⟩
  bytes := ⟨word.start, word.stop⟩

theorem renderText?_suggestion (hs : HasWords s opening first others) {c : Char} {rest : List Char}
    (htext : first.text.toList = c :: rest) :
    suggestion.renderText? ⟨s, [⟨0, 1⟩, ⟨1, 2⟩]⟩ = some (String.ofList (Unicode.upperForm c ++ rest)) := by
  have hresolve : Reference.resolve? { position := 2, conversion := .startUpper } ⟨s, [⟨0, 1⟩, ⟨1, 2⟩]⟩ =
      some (String.ofList (Unicode.upperForm c ++ rest)) := by
    have hupper : Text.CaseConversion.startUpper.apply first.text = String.ofList (Unicode.upperForm c ++ rest) := by
      show String.ofList (Text.CaseConversion.startUpper.convert first.text.toList) = _
      rw [htext]
      rfl
    show (s.token? 1).bind (fun t => some (Text.CaseConversion.startUpper.apply t.text)) = _
    rw [hs.token?_one, Option.bind_some, hupper]
  show ((Reference.resolve? _ _).bind fun shown => some (shown ++ "")) = _
  rw [hresolve, Option.bind_some, String.append_empty]

theorem ofMatch_firstMatch (hs : HasWords s opening first others) {c : Char} {rest : List Char}
    (htext : first.text.toList = c :: rest) : Report.ofMatch (compiled m) s (firstMatch m s) = finding first c rest := by
  have hmessage : (firstMatch m s).message = definition.message := String.empty_append
  have hsuggestions : (firstMatch m s).suggestions = [String.ofList (Unicode.upperForm c ++ rest)] := by
    show ([suggestion].filterMap (·.renderText? ⟨s, [⟨0, 1⟩, ⟨1, 2⟩]⟩)).foldl Template.addDistinct [] = _
    rw [List.filterMap_cons, renderText?_suggestion hs htext]
    rfl
  have hrange : (firstMatch m s).range = ⟨1, 2⟩ := rfl
  have hbytes : Report.byteSpan s ⟨1, 2⟩ = ⟨first.start, first.stop⟩ :=
    Report.byteSpan_of_not_isEmpty rfl hs.token?_one hs.token?_one
  rw [Report.ofMatch, hrange, hmessage, hsuggestions, hbytes]
  rfl

/-- The finding in a sentence that starts with a lowercase letter. -/
def finding? (s : Sentence) : Option Report :=
  match s.tokens with
  | _ :: first :: _ =>
    match first.text.toList with
    | c :: rest => if Unicode.isLowercaseLetter c then some (finding first c rest) else none
    | [] => none
  | _ => none

theorem finding?_of_text (htokens : s.tokens = opening :: first :: others) {c : Char} {rest : List Char}
    (htext : first.text.toList = c :: rest) :
    finding? s = if Unicode.isLowercaseLetter c then some (finding first c rest) else none := by
  rw [finding?, htokens]
  dsimp only
  rw [htext]

/-- What follows a sentence that ends with such a mark is an item of a list. -/
def endsBeforeItem (s : Sentence) : Bool := s.tokens.getLast?.any fun t => t.text ∈ [":", ";", ","]

theorem accepts_eq (haccepts : AcceptsLowercaseStart m) {t : Token} (ht : IsWord t) {c : Char} {rest : List Char}
    (htext : t.text.toList = c :: rest) : m.accepts t.text true = Unicode.isLowercaseLetter c := by
  rw [Bool.eq_iff_iff, haccepts, htext]
  constructor
  · rintro ⟨d, others, heq, hd, -⟩
    obtain ⟨rfl, -⟩ := List.cons.inj heq
    exact hd
  · intro hc
    refine ⟨c, rest, rfl, hc, fun hnewline => ?_⟩
    have hblank := ht.unspaced '\n' (htext ▸ List.mem_cons_of_mem c hnewline)
    exact absurd hblank (by decide)

/-- The search finds what there is to report in a sentence, and nothing else. -/
theorem findMatches_reports (haccepts : AcceptsLowercaseStart m) (hs : HasWords s opening first others) :
    ((compiled m).findMatches s none).map (·.map (Report.ofMatch (compiled m) s)) = .ok (finding? s).toList := by
  rw [findMatches_compiled hs]
  cases htext : first.text.toList with
  | nil =>
    have hnone : m.accepts first.text true = false := by
      rw [Bool.eq_false_iff, ne_eq, haccepts, htext]
      rintro ⟨c, rest, hcons, -⟩
      exact List.cons_ne_nil c rest hcons.symm
    have hempty : finding? s = none := by
      rw [finding?, hs.tokens]
      dsimp only
      rw [htext]
    rw [hnone, hempty]
    rfl
  | cons c rest =>
    rw [finding?_of_text hs.tokens htext, accepts_eq haccepts (hs.words first List.mem_cons_self) htext]
    split
    · exact congrArg (fun report => Except.ok [report]) (ofMatch_firstMatch hs htext)
    · rfl

/-- The last word of a sentence is its last token. -/
theorem lastWord?_eq (hs : HasWords s opening first others) : s.lastWord? = s.tokens.getLast? := by
  have hne : first :: others ≠ [] := List.cons_ne_nil first others
  obtain ⟨before, last, hlast⟩ := (List.eq_nil_or_concat (first :: others)).resolve_left hne
  rw [List.concat_eq_append] at hlast
  have hword : IsWord last := hs.words last (hlast ▸ List.mem_append_right before (List.mem_singleton_self last))
  have htokens : s.tokens = (opening :: before) ++ [last] := by rw [hs.tokens, hlast, List.cons_append]
  rw [Sentence.lastWord?, htokens, List.getLast?_concat, List.reverse_append, List.reverse_singleton,
    List.singleton_append, List.find?_cons_of_pos (by rw [hword.inside]; rfl)]

theorem continuesList_eq (hs : HasWords s opening first others) : continuesList s = endsBeforeItem s := by
  rw [continuesList, endsBeforeItem, lastWord?_eq hs]
  congr 1
  funext t
  simp [Bool.decide_or, Bool.or_assoc, beq_eq_decide]

/-- What there is to report in a sentence, given the one before it. -/
def findingAfter? (previous : Option Sentence) (s : Sentence) : Option Report :=
  if previous.any endsBeforeItem then none else finding? s

theorem checkSentence_compiled (haccepts : AcceptsLowercaseStart m) (hs : IsWorded s) {previous : Option Sentence}
    (hprevious : ∀ p ∈ previous, IsWorded p) :
    checkSentence (compiled m) none s previous = .ok (findingAfter? previous s).toList := by
  obtain ⟨opening, first, others, hs⟩ := hs
  have hcontinues : previous.any continuesList = previous.any endsBeforeItem := by
    cases previous with
    | none => rfl
    | some p =>
      obtain ⟨_, _, _, hp⟩ := hprevious p rfl
      exact continuesList_eq hp
  rw [checkSentence, hcontinues, findingAfter?]
  split
  · rfl
  · exact findMatches_reports haccepts hs

theorem checkAfter_compiled (haccepts : AcceptsLowercaseStart m) {sentences : List Sentence}
    (hs : ∀ s ∈ sentences, IsWorded s) {previous : Option Sentence} (hprevious : ∀ p ∈ previous, IsWorded p) :
    checkAfter (compiled m) none previous sentences =
      (List.zipWith findingAfter? (previous :: sentences.map some) sentences).filterMap id := by
  induction sentences generalizing previous with
  | nil => rfl
  | cons s rest ih =>
    obtain ⟨hfirst, hrest⟩ := List.forall_mem_cons.mp hs
    have hnext : ∀ p ∈ some s, IsWorded p := fun p hp => Option.mem_some.mp hp ▸ hfirst
    rw [checkAfter, checkSentence_compiled haccepts hfirst hprevious, ih hrest hnext, List.map_cons,
      List.zipWith_cons_cons, List.filterMap_cons]
    cases findingAfter? previous s <;> rfl

/-- Of a text whose words do not get the tag of sentence starts, the sentences are reported whose first word starts with a
lowercase letter, but for items of lists; each report is for that word, with its first letter made uppercase. -/
theorem checkText_reports {dictionary : Option Dictionary} (h : SparesStartTag dictionary) (text : String) :
    ∃ r, rule = .ok (some r) ∧ checkText r none (analyze dictionary text) =
      (List.zipWith findingAfter? (none :: (analyze dictionary text).map some) (analyze dictionary text)).filterMap id := by
  have haccepts : AcceptsLowercaseStart (.regex Regex.lowercaseStart Regex.lowercaseLine) := fun text _ =>
    Regex.isMatch_lowercaseLine text
  refine ⟨compiled (.regex Regex.lowercaseStart Regex.lowercaseLine), rule_eq Matcher.ofRegex_lowercaseStart, ?_⟩
  exact checkAfter_compiled haccepts (fun s => isWorded_of_mem_analyze h) (fun p hp => nomatch hp)

def headWord : Token := { Token.new "a" [] with spaceBefore := false, position := 1 }

def listHead : Sentence where
  tokens := [.sentenceStart, headWord, { Token.new ":" [] with spaceBefore := false, position := 2, start := 1 }]
  cached := none

def listItem : Sentence where
  tokens := [{ Token.sentenceStart with start := 4 },
    { Token.new "b" [.of "be" "V"] with position := 1, start := 4 }]
  cached := none

/-- The head of a list is reported, and the item behind its colon is not. -/
theorem checkText_reports_listHead :
    SparesStartTag (some ⟨[("b", [.of "be" "V"])]⟩) ∧ ∃ r, rule = .ok (some r) ∧
      checkText r none (analyze (some ⟨[("b", [.of "be" "V"])]⟩) "a:\n\nb") =
        [⟨"UPPERCASE_SENTENCE_START", "1", "This sentence does not start with an uppercase letter.", none, ["A"], ⟨1, 2⟩,
          ⟨0, 1⟩⟩] := by
  have hspares : SparesStartTag (some ⟨[("b", [.of "be" "V"])]⟩) := by
    intro d hd form reading hreading
    obtain rfl := Option.some.inj hd
    rw [Dictionary.lookup, Dictionary.items_cons] at hreading
    split at hreading
    · rw [List.mem_singleton.mp hreading]
      decide
    · exact absurd hreading List.not_mem_nil
  have hsentences : analyze (some ⟨[("b", [.of "be" "V"])]⟩) "a:\n\nb" = [listHead, listItem] := by decide +kernel
  have hletter : Unicode.isLowercaseLetter 'a' = true := Unicode.isLowercaseLetter_ascii 97 (by decide)
  have hhead : findingAfter? none listHead = some (finding headWord 'a' []) := by
    have htext : headWord.text.toList = ['a'] := by decide
    rw [findingAfter?, Option.any_none, if_neg Bool.false_ne_true, finding?_of_text rfl htext, if_pos hletter]
  have hitem : findingAfter? (some listHead) listItem = none := by
    have hends : endsBeforeItem listHead = true := by decide +kernel
    rw [findingAfter?, Option.any_some, if_pos hends]
  have hsuggestion : String.ofList (Unicode.upperForm 'a' ++ []) = "A" := by decide +kernel
  have hbytes : Span.mk headWord.start headWord.stop = ⟨0, 1⟩ := by decide +kernel
  obtain ⟨r, hr, hreports⟩ := checkText_reports hspares "a:\n\nb"
  refine ⟨hspares, r, hr, hreports.trans ?_⟩
  rw [hsentences]
  rw [List.map_cons, List.zipWith_cons_cons, hhead, List.map_cons, List.zipWith_cons_cons, hitem, List.zipWith_nil_right,
    finding, hsuggestion, hbytes]
  rfl

end GrammarCheck.SentenceStart
