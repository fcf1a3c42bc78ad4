import CharacterSheet.Difficulty
import CharacterSheet.Feature
import CharacterSheet.Item.Level
import CharacterSheet.Item.Source
import CharacterSheet.ItemId
import CharacterSheet.Prereq
import CharacterSheet.SkillDefault

/-!
# Skills

A skill of a character, trained with points or used by one of its defaults.
-/

namespace CharacterSheet

/-- A skill. -/
structure Skill where
  id : ItemId := {}
  name : String
  specialization : String := ""
  tags : List String := []
  difficulty : Difficulty
  points : Fixed := 0
  defaults : List SkillDefault := []
  features : List Feature := []
  prereqs : Option PrereqList := none
  replacements : Replacements := .empty
  source : Option SourceRef := none
  level : Level := {}
  /-- Why the prerequisites are not met, if they are not. -/
  unsatisfiedReason : Option String := none
deriving DecidableEq, Repr

namespace Skill

/-- The name with values for its tokens. -/
def displayName (s : Skill) : String := Placeholder.substitute s.replacements s.name

/-- The specialization with values for its tokens. -/
def displaySpecialization (s : Skill) : String :=
  Placeholder.substitute s.replacements s.specialization

/-- The name with the specialization after it, if there is one. -/
def fullName (s : Skill) : String :=
  let specialization := s.displaySpecialization
  if specialization.isEmpty then s.displayName
  else s.displayName ++ " (" ++ specialization ++ ")"

instance : HasPlaceholders Skill where
  texts s :=
    s.name :: s.specialization :: HasPlaceholders.texts s.defaults ++
      HasPlaceholders.texts s.features ++ HasPlaceholders.texts s.prereqs
  mapTexts f s :=
    { s with
      name := f s.name
      specialization := f s.specialization
      defaults := HasPlaceholders.mapTexts f s.defaults
      features := HasPlaceholders.mapTexts f s.features
      prereqs := HasPlaceholders.mapTexts f s.prereqs }

instance : SourceContent Skill where
  bytes s :=
    SourceContent.bytes s.name ++ SourceContent.bytes s.specialization ++
      SourceContent.bytes s.tags ++ SourceContent.bytes s.difficulty.attributeId ++
      SourceContent.bytes s.difficulty.level.key ++ SourceContent.bytes s.defaults ++
      SourceContent.bytes s.features ++ SourceContent.bytes s.prereqs

end Skill

end CharacterSheet
