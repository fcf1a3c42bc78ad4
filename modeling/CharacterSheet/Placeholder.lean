import CharacterSheet.Criteria
import CharacterSheet.KeyMap

/-!
# Placeholders

Rule texts may hold placeholders: tokens between two `@` markers, such as `@Weapon@`.
`extract` collects the tokens of a text together with the values chosen for them, and
`substitute` writes values for tokens.

A text is cut at its markers; every second piece is a token, unless no marker follows
it. Substitution replaces each known token throughout the text, one token after the
other in ascending order. Chosen values are not escaped: a value that holds a marker
can form a token with its surroundings.

`HasPlaceholders` says which texts of a rule object may hold placeholders. Filling and
substitution on the object are both defined from it, so they reach the same texts.
-/

namespace CharacterSheet

/-- Values chosen for tokens. -/
abbrev Replacements := KeyMap String

namespace Placeholder

/-- The character on both sides of a token. -/
def marker : Char := '@'

/-- The pieces of a text between its markers. -/
def pieces : List Char → List (List Char)
  | [] => [[]]
  | c :: rest =>
    match pieces rest with
    | [] => [[c]]
    | first :: others =>
      if c = marker then [] :: first :: others else (c :: first) :: others

theorem pieces_ne_nil (cs : List Char) : pieces cs ≠ [] := by
  cases cs with
  | nil => simp [pieces]
  | cons c rest =>
    simp only [pieces]
    split
    · simp
    · split <;> simp

/-- The pieces with markers between them are the text. -/
theorem intercalate_pieces (cs : List Char) : [marker].intercalate (pieces cs) = cs := by
  induction cs with
  | nil => simp [pieces, List.intercalate]
  | cons c rest ih =>
    simp only [pieces]
    split
    · next h => exact absurd h (pieces_ne_nil rest)
    · next first others h =>
      rw [h] at ih
      split
      · next hc => cases others <;> simp_all [List.intercalate, List.intersperse]
      · cases others <;> simp_all [List.intercalate, List.intersperse]

/-- The second, fourth, … elements of a list. -/
def everySecond {α : Type} : List α → List α
  | _ :: b :: rest => b :: everySecond rest
  | _ => []

/-- The tokens of a text: every second piece that a marker follows. -/
def tokens (text : String) : List String :=
  (everySecond (pieces text.toList).dropLast).map String.ofList

/-- Enters the tokens of a text in `found`, each with the value chosen for it or else
with itself. -/
def extract (text : String) (found chosen : Replacements) : Replacements :=
  (tokens text).foldl (fun m token => m.insert token ((chosen.get? token).getD token)) found

/-- A token with its markers. -/
def marked (token : String) : List Char := marker :: token.toList ++ [marker]

/-- Writes values for tokens. A text with fewer than two markers stays as it is. -/
def substitute (m : Replacements) (text : String) : String :=
  if text.toList.count marker < 2 then text
  else
    String.ofList
      (m.entries.foldl (fun cs e => Text.replaceAll (marked e.1) e.2.toList cs) text.toList)

/-- Enters the tokens of several texts. -/
def extractAll (texts : List String) (found chosen : Replacements) : Replacements :=
  texts.foldl (fun m text => extract text m chosen) found

/-- The replacements for needed tokens. -/
def keepNeeded (needed m : Replacements) : Replacements :=
  m.filterKeys needed.contains

end Placeholder

/-- Rule objects with texts that may hold placeholders. -/
class HasPlaceholders (α : Type) where
  /-- The texts that may hold placeholders. -/
  texts : α → List String
  /-- Changes these texts and nothing else. -/
  mapTexts : (String → String) → α → α

namespace HasPlaceholders

variable {α : Type}

instance [HasPlaceholders α] : HasPlaceholders (List α) where
  texts as := as.flatMap texts
  mapTexts f as := as.map (mapTexts f)

instance [HasPlaceholders α] : HasPlaceholders (Option α) where
  texts
    | none => []
    | some a => texts a
  mapTexts f a := a.map (mapTexts f)

instance : HasPlaceholders StringCriteria where
  texts c := [c.qualifier]
  mapTexts f c := { c with qualifier := f c.qualifier }

/-- Enters the tokens of an object in `found`. -/
def fill [HasPlaceholders α] (a : α) (found chosen : Replacements) : Replacements :=
  Placeholder.extractAll (texts a) found chosen

/-- The tokens of an object with the values chosen for them. -/
def collect [HasPlaceholders α] (a : α) (chosen : Replacements) : Replacements :=
  fill a .empty chosen

/-- Writes values for the tokens of an object. -/
def substitute [HasPlaceholders α] (m : Replacements) (a : α) : α :=
  mapTexts (Placeholder.substitute m) a

end HasPlaceholders

end CharacterSheet
