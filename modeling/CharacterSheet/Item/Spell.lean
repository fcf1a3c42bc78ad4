import CharacterSheet.Difficulty
import CharacterSheet.Item.Level
import CharacterSheet.Item.Source
import CharacterSheet.ItemId
import CharacterSheet.Prereq

/-!
# Spells

A spell of a character. Spells have no defaults and grant no features.
-/

namespace CharacterSheet

/-- A spell. -/
structure Spell where
  id : ItemId := {}
  name : String
  college : List String := []
  powerSource : String := ""
  tags : List String := []
  difficulty : Difficulty
  points : Fixed := 0
  prereqs : Option PrereqList := none
  replacements : Replacements := .empty
  source : Option SourceRef := none
  level : Level := {}
  /-- Why the prerequisites are not met, if they are not. -/
  unsatisfiedReason : Option String := none
deriving DecidableEq, Repr

namespace Spell

/-- The name with values for its tokens. -/
def displayName (s : Spell) : String := Placeholder.substitute s.replacements s.name

/-- The colleges with values for their tokens. -/
def displayCollege (s : Spell) : List String :=
  s.college.map (Placeholder.substitute s.replacements)

/-- The power source with values for its tokens. -/
def displayPowerSource (s : Spell) : String :=
  Placeholder.substitute s.replacements s.powerSource

instance : HasPlaceholders Spell where
  texts s := s.name :: s.college ++ s.powerSource :: HasPlaceholders.texts s.prereqs
  mapTexts f s :=
    { s with
      name := f s.name
      college := s.college.map f
      powerSource := f s.powerSource
      prereqs := HasPlaceholders.mapTexts f s.prereqs }

instance : SourceContent Spell where
  bytes s :=
    SourceContent.bytes s.name ++ SourceContent.bytes s.college ++
      SourceContent.bytes s.powerSource ++ SourceContent.bytes s.tags ++
      SourceContent.bytes s.difficulty.attributeId ++
      SourceContent.bytes s.difficulty.level.key ++ SourceContent.bytes s.prereqs

end Spell

end CharacterSheet
