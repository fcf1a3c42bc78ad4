import CharacterSheet.Fixed

/-!
# Levels of skills and spells
-/

namespace CharacterSheet

/-- The level of a skill or spell, as it is, relative to its attribute, and with the
tooltip of the bonuses in it. It is undefined before it is computed, and when nothing
gives a level. -/
structure Level where
  level : Fixed := .undefined
  relative : Fixed := .undefined
  tooltip : String := ""
deriving DecidableEq, Repr, Inhabited

end CharacterSheet
