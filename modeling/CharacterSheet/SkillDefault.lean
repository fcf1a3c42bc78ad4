import CharacterSheet.BonusKey
import CharacterSheet.Digest.Source
import CharacterSheet.Placeholder

/-!
# Skill defaults

A skill default lets a skill be used at a modifier to another skill, to the parry or
block that comes with a skill, to the dodge of the character, or to an attribute.

This module holds the defaults themselves. The levels that they give stand in
`Sheet.Levels`.
-/

namespace CharacterSheet

/-- What a default starts from. -/
inductive DefaultBase where
  | skill
  | parry
  | block
  | dodge
  | ofAttribute (id : String)
deriving DecidableEq, Repr

namespace DefaultBase

/-- Reads an id; what names no other base names an attribute. -/
def parse (id : String) : DefaultBase :=
  match BonusKey.normalize id with
  | "skill" => skill
  | "parry" => parry
  | "block" => block
  | "dodge" => dodge
  | id => ofAttribute id

def id : DefaultBase → String
  | skill => "skill"
  | parry => "parry"
  | block => "block"
  | dodge => "dodge"
  | ofAttribute id => id

/-- Whether the default starts from a skill. -/
def isSkillBased : DefaultBase → Bool
  | skill | parry | block => true
  | dodge | ofAttribute _ => false

end DefaultBase

/-- A way to use a skill without training. The last three fields record what was once
computed; nothing reads them. -/
structure SkillDefault where
  base : DefaultBase
  name : String := ""
  specialization : String := ""
  modifier : Fixed := 0
  level : Fixed := 0
  adjustedLevel : Fixed := 0
  points : Fixed := 0
deriving DecidableEq, Repr

namespace SkillDefault

/-- A default to a skill. -/
def toSkill (name : String) (modifier : Fixed) : SkillDefault := { base := .skill, name, modifier }

/-- A default to what an id names. -/
def toId (id : String) (modifier : Fixed) : SkillDefault := { base := .parse id, modifier }

def isSkillBased (d : SkillDefault) : Bool := d.base.isSkillBased

/-- The default without the record of what was once computed. -/
def bare (d : SkillDefault) : SkillDefault :=
  { d with level := 0, adjustedLevel := 0, points := 0 }

/-- The name of the skill with values for its tokens. -/
def nameWith (d : SkillDefault) (m : Replacements) : String := Placeholder.substitute m d.name

/-- The specialization of the skill with values for its tokens. -/
def specializationWith (d : SkillDefault) (m : Replacements) : String :=
  Placeholder.substitute m d.specialization

/-- Whether two defaults are the same once values are written for tokens. -/
def equivalent (d : SkillDefault) (m : Replacements) (e : SkillDefault) : Bool :=
  d.base == e.base && d.modifier == e.modifier && d.nameWith m == e.nameWith m &&
    d.specializationWith m == e.specializationWith m

/-- The modifier with its sign, or nothing for zero. -/
def modifierText (d : SkillDefault) : String :=
  if d.modifier = 0 then "" else d.modifier.signedText

instance : HasPlaceholders SkillDefault where
  texts d := [d.name, d.specialization]
  mapTexts f d := { d with name := f d.name, specialization := f d.specialization }

instance : SourceContent SkillDefault where
  bytes d :=
    SourceContent.bytes d.base.id ++ SourceContent.bytes d.name ++
      SourceContent.bytes d.specialization ++ SourceContent.bytes d.modifier

end SkillDefault

end CharacterSheet
