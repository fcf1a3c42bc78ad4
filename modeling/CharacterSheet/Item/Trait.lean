import CharacterSheet.Feature
import CharacterSheet.Item.Source
import CharacterSheet.ItemId
import CharacterSheet.Prereq

/-!
# Traits

An advantage or a disadvantage of a character, with the features that it grants.
-/

namespace CharacterSheet

/-- A trait. A disabled trait grants nothing and counts for no prerequisite. -/
structure Trait where
  id : ItemId := {}
  name : String
  notes : String := ""
  tags : List String := []
  levels : Option Fixed := none
  disabled : Bool := false
  features : List Feature := []
  prereqs : Option PrereqList := none
  replacements : Replacements := .empty
  source : Option SourceRef := none
  /-- Why the prerequisites are not met, if they are not. -/
  unsatisfiedReason : Option String := none
deriving DecidableEq, Repr

namespace Trait

/-- The name with values for its tokens. -/
def displayName (t : Trait) : String := Placeholder.substitute t.replacements t.name

/-- The notes with values for their tokens. -/
def displayNotes (t : Trait) : String := Placeholder.substitute t.replacements t.notes

/-- The level of the trait; a trait without levels has level zero. -/
def currentLevel (t : Trait) : Fixed := t.levels.getD 0

instance : HasPlaceholders Trait where
  texts t :=
    t.name :: t.notes :: HasPlaceholders.texts t.features ++ HasPlaceholders.texts t.prereqs
  mapTexts f t :=
    { t with
      name := f t.name
      notes := f t.notes
      features := HasPlaceholders.mapTexts f t.features
      prereqs := HasPlaceholders.mapTexts f t.prereqs }

instance : SourceContent Trait where
  bytes t :=
    SourceContent.bytes t.name ++ SourceContent.bytes t.notes ++ SourceContent.bytes t.tags ++
      SourceContent.bytes t.levels.isSome ++ SourceContent.bytes t.features ++
      SourceContent.bytes t.prereqs

end Trait

end CharacterSheet
