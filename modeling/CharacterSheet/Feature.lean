import CharacterSheet.Amount
import CharacterSheet.BonusKey
import CharacterSheet.Placeholder

/-!
# Features

A feature of an item grants a bonus to some target: an attribute, skills, spells,
weapons, a hit location or a reaction. `Feature.key` is the bucket that the bonus is
filed under; the criteria of the feature decide which targets in that bucket it
reaches.
-/

namespace CharacterSheet

/-! ### Selections -/

/-- How a weapon bonus selects weapons. -/
inductive WeaponSelection where
  | withRequiredSkill | thisWeapon | withName
deriving DecidableEq, Repr

namespace WeaponSelection

def key : WeaponSelection → String
  | withRequiredSkill => "weapons_with_required_skill"
  | thisWeapon => "this_weapon"
  | withName => "weapons_with_name"

instance : Keyword WeaponSelection where
  all := [withRequiredSkill, thisWeapon, withName]
  key := key
  unknown := .selectionType

end WeaponSelection

/-- How a skill bonus selects skills, or weapons whose use it improves. -/
inductive SkillSelection where
  | skillsWithName | weaponsWithName | thisWeapon
deriving DecidableEq, Repr

namespace SkillSelection

def key : SkillSelection → String
  | skillsWithName => "skills_with_name"
  | weaponsWithName => "weapons_with_name"
  | thisWeapon => "this_weapon"

instance : Keyword SkillSelection where
  all := [skillsWithName, weaponsWithName, thisWeapon]
  key := key
  unknown := .selectionType

end SkillSelection

/-- What a spell bonus compares with its name. -/
inductive SpellMatch where
  | allColleges | collegeName | powerSourceName | spellName
deriving DecidableEq, Repr

namespace SpellMatch

def key : SpellMatch → String
  | allColleges => "all_colleges"
  | collegeName => "college_name"
  | powerSourceName => "power_source_name"
  | spellName => "spell_name"

instance : Keyword SpellMatch where
  all := [allColleges, collegeName, powerSourceName, spellName]
  key := key
  unknown := .spellMatch

end SpellMatch

/-- The uses of an attribute that a bonus is limited to. -/
inductive AttributeLimitation where
  | none | strikingOnly | liftingOnly | throwingOnly
deriving DecidableEq, Repr, Inhabited

namespace AttributeLimitation

def key : AttributeLimitation → String
  | none => "none"
  | strikingOnly => "striking_only"
  | liftingOnly => "lifting_only"
  | throwingOnly => "throwing_only"

instance : Keyword AttributeLimitation where
  all := [none, strikingOnly, liftingOnly, throwingOnly]
  key := key
  unknown := .value "attribute limitation"

end AttributeLimitation

/-- The bucket of an attribute under a limitation. -/
def BonusKey.forAttribute (id : String) (limitation : AttributeLimitation) : String :=
  let base := "attr." ++ normalize id
  if limitation = .none then base else base ++ "." ++ limitation.key

/-! ### Kinds of features -/

/-- A bonus to an attribute. -/
structure AttributeBonus where
  attributeId : String
  limitation : AttributeLimitation := .none
  amount : Amount := {}
deriving DecidableEq, Repr

/-- A bonus to skills. -/
structure SkillBonus where
  selection : SkillSelection
  name : StringCriteria := .any
  specialization : StringCriteria := .any
  tags : StringCriteria := .any
  amount : Amount := {}
deriving DecidableEq, Repr

namespace SkillBonus

/-- A bonus of one to the skills with a name. -/
def named (name : String) : SkillBonus := { selection := .skillsWithName, name := .is name }

/-- Whether the bonus reaches a skill, or a weapon by its name and usage. -/
def reaches (b : SkillBonus) (name specialization : String) (tags : List String) : Bool :=
  b.name.accepts name && b.specialization.accepts specialization && b.tags.acceptsList tags

def key (b : SkillBonus) : String :=
  match b.selection with
  | .skillsWithName => BonusKey.ofCriteria BonusKey.skillName b.name b.specialization b.tags
  | .thisWeapon => BonusKey.thisWeapon
  | .weaponsWithName => BonusKey.ofCriteria BonusKey.weaponNamed b.name b.specialization b.tags

end SkillBonus

/-- A bonus to spells. -/
structure SpellBonus where
  select : SpellMatch := .allColleges
  name : StringCriteria := .is ""
  tags : StringCriteria := .any
  amount : Amount := {}
deriving DecidableEq, Repr

namespace SpellBonus

/-- Whether the bonus reaches a spell. -/
def reaches (b : SpellBonus) (name : String) (colleges : List String) (powerSource : String)
    (tags : List String) : Bool :=
  b.tags.acceptsList tags &&
    match b.select with
    | .allColleges => true
    | .collegeName => b.name.acceptsList colleges
    | .powerSourceName => b.name.accepts powerSource
    | .spellName => b.name.accepts name

def key (b : SpellBonus) : String :=
  if !b.tags.isAny then BonusKey.wildcard BonusKey.spellName
  else
    match b.select with
    | .allColleges => BonusKey.spellCollege
    | .collegeName => BonusKey.ofCriteria BonusKey.spellCollege b.name .any .any
    | .powerSourceName => BonusKey.ofCriteria BonusKey.spellPowerSource b.name .any .any
    | .spellName => BonusKey.ofCriteria BonusKey.spellName b.name .any .any

end SpellBonus

/-- A bonus to the damage of weapons, or to how they divide armour. -/
structure WeaponBonus where
  percent : Bool := false
  selection : WeaponSelection
  name : StringCriteria := .any
  specialization : StringCriteria := .any
  level : NumericCriteria := .any
  tags : StringCriteria := .any
  amount : Amount := {}
deriving DecidableEq, Repr

namespace WeaponBonus

/-- A bonus of one to the weapons used with a skill at any level from zero up. -/
def forSkill (name : String) : WeaponBonus :=
  { selection := .withRequiredSkill, name := .is name
    level := { compare := .atLeast, qualifier := 0 } }

/-- Whether the bonus reaches the weapons used with a skill at a relative level. -/
def reachesSkill (b : WeaponBonus) (name specialization : String) (relativeLevel : Fixed)
    (tags : List String) : Bool :=
  b.name.accepts name && b.specialization.accepts specialization &&
    b.level.accepts relativeLevel && b.tags.acceptsList tags

/-- Whether the bonus reaches a weapon by its name and usage. -/
def reachesName (b : WeaponBonus) (name usage : String) (tags : List String) : Bool :=
  b.name.accepts name && b.specialization.accepts usage && b.tags.acceptsList tags

def key (b : WeaponBonus) : String :=
  match b.selection with
  | .withRequiredSkill => BonusKey.ofCriteria BonusKey.skillName b.name b.specialization b.tags
  | .thisWeapon => BonusKey.thisWeapon
  | .withName => BonusKey.ofCriteria BonusKey.weaponNamed b.name b.specialization b.tags

end WeaponBonus

/-- A bonus to the resistance of a hit location. -/
structure DrBonus where
  location : String
  specialization : String := ""
  amount : Amount := {}
deriving DecidableEq, Repr

/-- A bonus to reactions in a situation. -/
structure ReactionBonus where
  situation : String := ""
  amount : Amount := {}
deriving DecidableEq, Repr

/-! ### Features -/

/-- A feature of an item. -/
inductive Feature where
  | attributeBonus (b : AttributeBonus)
  | skillBonus (b : SkillBonus)
  | spellBonus (b : SpellBonus)
  | weaponBonus (b : WeaponBonus)
  | weaponDrDivisorBonus (b : WeaponBonus)
  | drBonus (b : DrBonus)
  | reactionBonus (b : ReactionBonus)
deriving DecidableEq, Repr

namespace Feature

/-- The name of the kind of a feature. -/
def kind : Feature → String
  | attributeBonus _ => "attribute_bonus"
  | skillBonus _ => "skill_bonus"
  | spellBonus _ => "spell_bonus"
  | weaponBonus _ => "weapon_bonus"
  | weaponDrDivisorBonus _ => "weapon_dr_divisor_bonus"
  | drBonus _ => "dr_bonus"
  | reactionBonus _ => "reaction_bonus"

/-- The bucket that the bonus of a feature is filed under. -/
def key : Feature → String
  | attributeBonus b => BonusKey.forAttribute b.attributeId b.limitation
  | skillBonus b => b.key
  | spellBonus b => b.key
  | weaponBonus b => b.key
  | weaponDrDivisorBonus b => b.key
  | drBonus b => BonusKey.hitLocation b.location
  | reactionBonus _ => BonusKey.reaction

def amount : Feature → Amount
  | attributeBonus b => b.amount
  | skillBonus b => b.amount
  | spellBonus b => b.amount
  | weaponBonus b => b.amount
  | weaponDrDivisorBonus b => b.amount
  | drBonus b => b.amount
  | reactionBonus b => b.amount

/-- Changes the amount of a feature. -/
def mapAmount (f : Amount → Amount) : Feature → Feature
  | attributeBonus b => attributeBonus { b with amount := f b.amount }
  | skillBonus b => skillBonus { b with amount := f b.amount }
  | spellBonus b => spellBonus { b with amount := f b.amount }
  | weaponBonus b => weaponBonus { b with amount := f b.amount }
  | weaponDrDivisorBonus b => weaponDrDivisorBonus { b with amount := f b.amount }
  | drBonus b => drBonus { b with amount := f b.amount }
  | reactionBonus b => reactionBonus { b with amount := f b.amount }

/-- The feature at a level. -/
def atLevel (level : Fixed) : Feature → Feature :=
  mapAmount fun a => { a with level }

/-- What the feature grants, in words. -/
def grant : Feature → String
  | weaponBonus b => b.amount.format b.percent "die" ++ " to damage"
  | weaponDrDivisorBonus b => b.amount.formatWithLevel b.percent ++ " to DR divisor"
  | f => f.amount.formatWithLevel false

/-- The line of a tooltip for the feature of an item. -/
def tooltipLine (f : Feature) (owner : String) : String :=
  "\n" ++ owner ++ " [" ++ f.grant ++ "]"

/-! ### Placeholders

Attribute ids and hit locations hold no placeholders. A bonus to the weapon that grants
it compares no names, so only its specialization is reached. -/

def texts : Feature → List String
  | attributeBonus _ | drBonus _ => []
  | skillBonus b =>
    b.specialization.qualifier ::
      (if b.selection = .thisWeapon then [] else [b.name.qualifier, b.tags.qualifier])
  | spellBonus b => [b.name.qualifier, b.tags.qualifier]
  | weaponBonus b | weaponDrDivisorBonus b =>
    b.specialization.qualifier ::
      (if b.selection = .thisWeapon then [] else [b.name.qualifier, b.tags.qualifier])
  | reactionBonus b => [b.situation]

/-- Changes the texts of a skill bonus that may hold placeholders. -/
def mapSkillTexts (f : String → String) (b : SkillBonus) : SkillBonus :=
  let b := { b with specialization := HasPlaceholders.mapTexts f b.specialization }
  if b.selection = .thisWeapon then b
  else
    { b with
      name := HasPlaceholders.mapTexts f b.name
      tags := HasPlaceholders.mapTexts f b.tags }

/-- Changes the texts of a weapon bonus that may hold placeholders. -/
def mapWeaponTexts (f : String → String) (b : WeaponBonus) : WeaponBonus :=
  let b := { b with specialization := HasPlaceholders.mapTexts f b.specialization }
  if b.selection = .thisWeapon then b
  else
    { b with
      name := HasPlaceholders.mapTexts f b.name
      tags := HasPlaceholders.mapTexts f b.tags }

def mapTexts (f : String → String) : Feature → Feature
  | attributeBonus b => attributeBonus b
  | skillBonus b => skillBonus (mapSkillTexts f b)
  | spellBonus b =>
    spellBonus
      { b with
        name := HasPlaceholders.mapTexts f b.name
        tags := HasPlaceholders.mapTexts f b.tags }
  | weaponBonus b => weaponBonus (mapWeaponTexts f b)
  | weaponDrDivisorBonus b => weaponDrDivisorBonus (mapWeaponTexts f b)
  | drBonus b => drBonus b
  | reactionBonus b => reactionBonus { b with situation := f b.situation }

instance : HasPlaceholders Feature where
  texts := texts
  mapTexts := mapTexts

/-! ### Source content -/

open SourceContent (bytes)

/-- The source content of a weapon bonus, its amount apart. -/
def weaponBytes (b : WeaponBonus) : List UInt8 :=
  bytes b.percent ++ bytes b.selection.key ++ bytes b.name ++ bytes b.specialization ++
    bytes b.level ++ bytes b.tags

/-- The source content of a feature, its kind and amount apart. -/
def targetBytes : Feature → List UInt8
  | attributeBonus b => bytes b.attributeId ++ bytes b.limitation.key
  | skillBonus b =>
    bytes b.selection.key ++ bytes b.name ++ bytes b.specialization ++ bytes b.tags
  | spellBonus b => bytes b.select.key ++ bytes b.name ++ bytes b.tags
  | weaponBonus b => weaponBytes b
  | weaponDrDivisorBonus b => weaponBytes b
  | drBonus b => bytes b.location ++ bytes b.specialization
  | reactionBonus b => bytes b.situation

instance : SourceContent Feature where
  bytes f := bytes f.kind ++ f.targetBytes ++ bytes f.amount

end Feature

end CharacterSheet
