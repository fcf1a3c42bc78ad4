import CharacterSheet.Error
import CharacterSheet.Text.Blank
import CharacterSheet.Text.Lowercase

/-!
# Vocabularies

A closed enumeration is written by a key word for each of its values. A text is read
as the value whose key it is, apart from blanks around it and the case of the letters
`A` to `Z`.
-/

namespace CharacterSheet

/-- An enumeration with key words. -/
class Keyword (α : Type) where
  /-- The values in the order of declaration. -/
  all : List α
  key : α → String
  /-- The error for a text that is no key. -/
  unknown : String → UnknownWord

namespace Keyword

variable {α : Type} [Keyword α]

/-- The value that a text names. -/
def parse (text : String) : Except UnknownWord α :=
  match (all (α := α)).find? fun a => Text.equalsIgnoringCase (Text.trim text) (key a) with
  | some a => .ok a
  | none => .error (unknown α text)

end Keyword

end CharacterSheet
