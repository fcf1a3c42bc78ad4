import CharacterSheet.Item.Equipment
import CharacterSheet.Item.Skill
import CharacterSheet.Item.Spell
import CharacterSheet.Item.Trait

/-!
# Items

An item of a sheet is of one of four kinds. `Item` joins them where the kind does not
matter: an id names an item whatever its kind is.
-/

namespace CharacterSheet

/-- An item of any kind. -/
inductive Item where
  | ofTrait (t : Trait)
  | ofSkill (k : Skill)
  | ofSpell (p : Spell)
  | ofEquipment (e : Equipment)
deriving DecidableEq, Repr

namespace Item

def kind : Item → ItemKind
  | ofTrait _ => .trait
  | ofSkill _ => .skill
  | ofSpell _ => .spell
  | ofEquipment _ => .equipment

def id : Item → ItemId
  | ofTrait t => t.id
  | ofSkill k => k.id
  | ofSpell p => p.id
  | ofEquipment e => e.id

/-- The name of an item, as it is shown. -/
def displayName : Item → String
  | ofTrait t => t.displayName
  | ofSkill k => k.fullName
  | ofSpell p => p.displayName
  | ofEquipment e => e.displayName

instance : SourceContent Item where
  bytes
    | ofTrait t => SourceContent.bytes t
    | ofSkill k => SourceContent.bytes k
    | ofSpell p => SourceContent.bytes p
    | ofEquipment e => SourceContent.bytes e

end Item

end CharacterSheet
