import CharacterSheet.Criteria

/-!
# Bonus keys

Bonuses are filed under keys, so that a query looks at a few buckets only. A bonus that
names its target goes to the bucket of that target; one that selects its targets in
another way goes to the wildcard bucket of its family.
-/

namespace CharacterSheet.BonusKey

/-- The bucket of bonuses to the weapon that grants them. -/
def thisWeapon : String := "\x01"

/-- The family of bonuses to weapons with a name. -/
def weaponNamed : String := "weapon_named."

/-- The family of bonuses to skills. -/
def skillName : String := "skill.name"

/-- The family of bonuses to spells. -/
def spellName : String := "spell.name"

/-- The family of bonuses to the spells of a college. -/
def spellCollege : String := "spell.college"

/-- The family of bonuses to the spells of a power source. -/
def spellPowerSource : String := "spell.power_source"

/-- The bucket of reactions. -/
def reaction : String := "reaction"

/-- Ids of attributes and locations are read without blanks around them and in
lowercase. -/
def normalize (id : String) : String := Text.lowercase (Text.trim id)

/-- The bucket of a target in a family. -/
def exact (family target : String) : String := family ++ "/" ++ Text.lowercase target

/-- The bucket of a family for bonuses without a named target. -/
def wildcard (family : String) : String := family ++ "*"

/-- The bucket of a hit location. -/
def hitLocation (location : String) : String := "hit_location." ++ normalize location

/-- The bucket of a bonus with criteria for names, specializations and tags: that of
the name if the name alone is asked for, and must be equal. -/
def ofCriteria (family : String) (name specialization tags : StringCriteria) : String :=
  if name.compare == .is && specialization.isAny && tags.isAny then exact family name.qualifier
  else wildcard family

end CharacterSheet.BonusKey
