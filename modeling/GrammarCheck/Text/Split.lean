/-! Cutting, trimming and replacing in lists of characters. A cut at a phrase loses nothing: with the phrase between them,
the parts give the text back. -/

namespace GrammarCheck.Text

/-- The pieces between the occurrences of a separator; one piece more than there are separators. -/
def splitAtChar (separator : Char) : List Char → List (List Char)
  | [] => [[]]
  | c :: rest =>
    if c = separator then [] :: splitAtChar separator rest
    else match splitAtChar separator rest with
      | [] => [[c]]
      | piece :: pieces => (c :: piece) :: pieces

def dropLeading (p : Char → Bool) (text : List Char) : List Char := text.dropWhile p

def dropTrailing (p : Char → Bool) (text : List Char) : List Char := (text.reverse.dropWhile p).reverse

/-- The part before the last occurrence of a separator and the part after it. -/
def splitAtLast? (separator : Char) (text : List Char) : Option (List Char × List Char) :=
  let after := text.reverse.takeWhile (· != separator)
  match text.reverse.dropWhile (· != separator) with
  | [] => none
  | _ :: before => some (before.reverse, after.reverse)

/-- The text left after a given beginning, if it begins so. -/
def dropStart? : List Char → List Char → Option (List Char)
  | [], text => some text
  | _ :: _, [] => none
  | p :: ps, c :: cs => if p = c then dropStart? ps cs else none

/-- The text before the first occurrence of a phrase and the text after it. -/
def splitAtFirst? (phrase : List Char) : List Char → Option (List Char × List Char)
  | [] => (dropStart? phrase []).map ([], ·)
  | c :: rest =>
    match dropStart? phrase (c :: rest) with
    | some after => some ([], after)
    | none => (splitAtFirst? phrase rest).map fun (before, after) => (c :: before, after)

/-- Puts a text in the place of a phrase where that one occurs; the number counts the characters of an occurrence that
are still to be passed over. -/
def replaceFrom (phrase replacement : List Char) : Nat → List Char → List Char
  | _, [] => []
  | left + 1, _ :: rest => replaceFrom phrase replacement left rest
  | 0, c :: rest =>
    if phrase.isPrefixOf (c :: rest) then replacement ++ replaceFrom phrase replacement (phrase.length - 1) rest
    else c :: replaceFrom phrase replacement 0 rest

/-- Replaces all occurrences of a phrase that is not empty, from left to right. -/
def replaceAll (phrase replacement text : List Char) : List Char := replaceFrom phrase replacement 0 text

theorem eq_append_of_dropStart? {p text rest : List Char} (h : dropStart? p text = some rest) :
    text = p ++ rest := by
  fun_induction dropStart? p text with
  | case1 => simp_all
  | case2 => simp at h
  | case3 p ps cs ih => simp [ih h]
  | case4 => simp at h

@[simp] theorem dropStart?_append (p rest : List Char) : dropStart? p (p ++ rest) = some rest := by
  induction p with
  | nil => rfl
  | cons c cs ih => simp [dropStart?, ih]

theorem eq_append_of_splitAtFirst? {phrase text before after : List Char}
    (h : splitAtFirst? phrase text = some (before, after)) : text = before ++ phrase ++ after := by
  induction text generalizing before with
  | nil =>
    obtain ⟨rest, hrest, hpair⟩ := Option.map_eq_some_iff.mp h
    obtain ⟨rfl, rfl⟩ := Prod.mk.inj hpair
    exact eq_append_of_dropStart? hrest
  | cons c text ih =>
    rw [splitAtFirst?] at h
    split at h
    · rename_i rest hstart
      obtain ⟨rfl, rfl⟩ := Prod.mk.inj (Option.some.inj h)
      exact eq_append_of_dropStart? hstart
    · obtain ⟨⟨front, back⟩, hfound, hpair⟩ := Option.map_eq_some_iff.mp h
      obtain ⟨rfl, rfl⟩ := Prod.mk.inj hpair
      exact congrArg (c :: ·) (ih hfound)

end GrammarCheck.Text
