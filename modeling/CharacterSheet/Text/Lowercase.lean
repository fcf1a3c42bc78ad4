import CharacterSheet.Text.CaseTable

/-!
# Lowercase texts

`lowercase` is the full Unicode lowercase mapping: it may change the length of a
text (`İ` becomes two characters) and looks at the neighbours of a capital sigma,
which is written `ς` at the end of a word and `σ` elsewhere. Names are compared and
keys are built in this form.

`equalsIgnoringCase` is the narrower comparison that folds the letters `A` to `Z`
only. Key words and names of skills are looked up by it.
-/

namespace CharacterSheet.Text

/-- The lowercase form of one character, out of context. -/
def lowerChar (c : Char) : List Char :=
  if c.toNat < 128 then [c.toLower]
  else if c = 'İ' then ['i', '\u0307']
  else
    match lowerRanges.findSome? (·.lower? c.toNat) with
    | some code => [Char.ofNat code]
    | none => [c]

/-- Letters with case, the case-ignorable ones left out. -/
def isCased (c : Char) : Bool :=
  inRanges casedRanges c.toNat

/-- Characters that the test for the end of a word passes over. -/
def isCaseIgnorable (c : Char) : Bool :=
  inRanges caseIgnorableRanges c.toNat

/-- Whether the first character that is not case-ignorable is a letter with case. -/
def startsCased (cs : List Char) : Bool :=
  match cs.dropWhile isCaseIgnorable with
  | [] => false
  | c :: _ => isCased c

/-- The lowercase form of `cs`, where `inWord` says whether the text before it ends
inside a word: with a letter that has case, followed by case-ignorable characters
only. -/
def lowerChars (inWord : Bool) : List Char → List Char
  | [] => []
  | c :: rest =>
    let lowered :=
      if c = 'Σ' then (if inWord && !startsCased rest then ['ς'] else ['σ'])
      else lowerChar c
    let inWord := if isCaseIgnorable c then inWord else isCased c
    lowered ++ lowerChars inWord rest

/-- The lowercase form of a text. -/
def lowercase (s : String) : String :=
  String.ofList (lowerChars false s.toList)

theorem lowerChar_ne_nil (c : Char) : lowerChar c ≠ [] := by
  unfold lowerChar
  split
  · exact List.cons_ne_nil _ _
  · split
    · exact List.cons_ne_nil _ _
    · split <;> exact List.cons_ne_nil _ _

/-- Only the empty text has an empty lowercase form. -/
theorem lowercase_eq_empty {s : String} : lowercase s = "" ↔ s = "" := by
  rw [lowercase, ← String.toList_inj, String.toList_ofList, ← String.toList_inj]
  cases s.toList with
  | nil => rfl
  | cons c rest =>
    have hne : lowerChars false (c :: rest) ≠ [] := by
      rw [lowerChars]
      split
      · simp
      · simp [lowerChar_ne_nil c]
    simpa using hne

/-- Whether two texts differ at most in the case of the letters `A` to `Z`. -/
def equalsIgnoringCase (a b : String) : Bool :=
  a.toList.map Char.toLower == b.toList.map Char.toLower

end CharacterSheet.Text
