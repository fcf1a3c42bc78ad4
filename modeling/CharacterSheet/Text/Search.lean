/-!
# Search and replacement in texts

Both work on lists of characters, so that they are plain recursions.
-/

namespace CharacterSheet.Text

/-- Whether `needle` stands somewhere in a list of characters. -/
def occursIn (needle : List Char) : List Char → Bool
  | [] => needle.isEmpty
  | c :: rest => needle.isPrefixOf (c :: rest) || occursIn needle rest

/-- A needle stands somewhere exactly when the list is made of it and two other parts. -/
theorem occursIn_iff {needle cs : List Char} : occursIn needle cs = true ↔ needle <:+: cs := by
  induction cs with
  | nil => simp [occursIn]
  | cons c rest ih => simp [occursIn, ih, List.infix_cons_iff]

/-- Reads from left to right and writes `value` for each occurrence of `pattern`,
which is not empty; `skip` characters still belong to the occurrence just replaced. -/
def replaceFrom (pattern value : List Char) : Nat → List Char → List Char
  | _, [] => []
  | skip + 1, _ :: rest => replaceFrom pattern value skip rest
  | 0, c :: rest =>
    if pattern.isPrefixOf (c :: rest) then
      value ++ replaceFrom pattern value (pattern.length - 1) rest
    else c :: replaceFrom pattern value 0 rest

/-- Replaces the occurrences of a pattern that is not empty, from left to right and
without overlap. Replaced text is not read again. -/
def replaceAll (pattern value cs : List Char) : List Char :=
  replaceFrom pattern value 0 cs

end CharacterSheet.Text
