import CharacterSheet.Bonus
import CharacterSheet.ExclusionSet
import CharacterSheet.Item

/-!
# Character sheets

A sheet holds attributes, a few values that others are derived from, and four
collections of items: traits, skills, spells and equipment. Items get their ids when
they are added.

Derived state is stored on the sheet as well: the table of bonuses, the levels of
skills and spells, and the reasons why prerequisites are not met. It is brought up to
date by `Sheet.recalculate`; the questions that a sheet answers here rely on the table
of bonuses as it stands.
-/

namespace CharacterSheet

/-- How much a character carries. -/
inductive Encumbrance where
  | none | light | medium | heavy | extraHeavy
deriving DecidableEq, Repr, Inhabited

namespace Encumbrance

def key : Encumbrance → String
  | none => "none"
  | light => "light"
  | medium => "medium"
  | heavy => "heavy"
  | extraHeavy => "extra_heavy"

instance : Keyword Encumbrance where
  all := [none, light, medium, heavy, extraHeavy]
  key := key
  unknown := .value "encumbrance"

/-- What encumbrance adds to dodge. -/
def penalty : Encumbrance → Fixed
  | none => 0
  | light => -1
  | medium => -2
  | heavy => -3
  | extraHeavy => -4

end Encumbrance

/-- Options of a sheet. -/
structure SheetSettings where
  /-- The unit that prerequisites state weights in. -/
  weightUnit : WeightUnit := .pound
  /-- Whether attribute defaults start from half of the attribute and five. -/
  halfStatDefaults : Bool := false
  /-- Whether attribute defaults treat an attribute above twenty as twenty. -/
  ruleOf20 : Bool := true
deriving DecidableEq, Repr, Inhabited

/-- An attribute of a character, before bonuses. -/
structure AttributeScore where
  name : String
  base : Fixed
deriving DecidableEq, Repr

/-- A character sheet. -/
structure Sheet where
  settings : SheetSettings := {}
  attributes : KeyMap AttributeScore := .empty
  encumbrance : Encumbrance := .none
  parryBonus : Fixed := 0
  blockBonus : Fixed := 0
  dodgeBonus : Fixed := 0
  techLevel : String := ""
  traits : List Trait := []
  skills : List Skill := []
  spells : List Spell := []
  equipment : List Equipment := []
  bonuses : BonusTable := .empty
  /-- The last id given to an item. The count has no bound here, so the laws on ids speak of
  sheets that have given fewer than `2 ^ 32`. -/
  lastId : Nat := 0
deriving DecidableEq, Repr, Inhabited

namespace Sheet

/-! ### Adding -/

/-- Sets an attribute under an id. -/
def setAttribute (s : Sheet) (id name : String) (base : Fixed) : Sheet :=
  { s with attributes := s.attributes.insert (BonusKey.normalize id) { name, base } }

/-- The id for the next item. -/
def nextId (s : Sheet) : ItemId := ⟨s.lastId + 1⟩

/-- Adds a trait at the end, under a new id. -/
def addTrait (s : Sheet) (t : Trait) : Sheet × ItemId :=
  ({ s with traits := s.traits ++ [{ t with id := s.nextId }], lastId := s.lastId + 1 }, s.nextId)

/-- Adds a skill at the end, under a new id. -/
def addSkill (s : Sheet) (k : Skill) : Sheet × ItemId :=
  ({ s with skills := s.skills ++ [{ k with id := s.nextId }], lastId := s.lastId + 1 }, s.nextId)

/-- Adds a spell at the end, under a new id. -/
def addSpell (s : Sheet) (p : Spell) : Sheet × ItemId :=
  ({ s with spells := s.spells ++ [{ p with id := s.nextId }], lastId := s.lastId + 1 }, s.nextId)

/-- Adds a piece of equipment at the end; it and everything in it get new ids. -/
def addEquipment (s : Sheet) (e : Equipment) : Sheet × ItemId :=
  let (e, last) := e.assignIds s.lastId
  ({ s with equipment := s.equipment ++ [e], lastId := last }, e.id)

/-- Adds an item at the end of the items of its kind. -/
def addItem (s : Sheet) : Item → Sheet × ItemId
  | .ofTrait t => s.addTrait t
  | .ofSkill k => s.addSkill k
  | .ofSpell p => s.addSpell p
  | .ofEquipment e => s.addEquipment e

/-! ### Looking up -/

def trait? (s : Sheet) (id : ItemId) : Option Trait := s.traits.find? (·.id == id)

def skill? (s : Sheet) (id : ItemId) : Option Skill := s.skills.find? (·.id == id)

def spell? (s : Sheet) (id : ItemId) : Option Spell := s.spells.find? (·.id == id)

/-- All pieces of equipment, containers before their contents. -/
def pieces (s : Sheet) : List Equipment := Equipment.piecesAll s.equipment

def equipment? (s : Sheet) (id : ItemId) : Option Equipment := s.pieces.find? (·.id == id)

/-- The item with an id. -/
def item? (s : Sheet) (id : ItemId) : Option Item :=
  (s.trait? id).map .ofTrait <|> (s.skill? id).map .ofSkill <|>
    (s.spell? id).map .ofSpell <|> (s.equipment? id).map .ofEquipment

/-- The name of an item, as it is shown. -/
def itemName? (s : Sheet) (id : ItemId) : Option String := (s.item? id).map Item.displayName

/-- The name of an item for tooltips; an unknown item has none. -/
def ownerName (s : Sheet) (id : ItemId) : String := (s.itemName? id).getD ""

/-- The skills with a name and, unless it is empty, a specialization, letter case of
`A` to `Z` apart. Excluded skills are left out, and those without points if points are
required. -/
def skillsNamed (s : Sheet) (name specialization : String) (requirePoints : Bool)
    (excluded : ExclusionSet) : List Skill :=
  s.skills.filter fun k =>
    Text.equalsIgnoringCase k.displayName name && !excluded.contains k.id &&
      (!requirePoints || 0 < k.points) &&
      (specialization.isEmpty ||
        Text.equalsIgnoringCase k.displaySpecialization specialization)

/-! ### Attributes and derived values -/

/-- Adds up bonuses, with the names of their owners in the tooltip. -/
def bonusTotal (s : Sheet) (bonuses : List Bonus) (tooltip : Option String) :
    Fixed × Option String :=
  Bonus.total s.ownerName bonuses tooltip

/-- The current value of an attribute; an unknown attribute is undefined. -/
def attributeCurrent (s : Sheet) (id : String) : Fixed :=
  let id := BonusKey.normalize id
  match s.attributes.get? id with
  | some a => a.base + (s.bonusTotal (s.bonuses.attributeBonuses id .none) none).1
  | none => .undefined

/-- The name of an attribute; an unknown attribute is shown by its id. -/
def attributeName (s : Sheet) (id : String) : String :=
  ((s.attributes.get? (BonusKey.normalize id)).map AttributeScore.name).getD id

/-- The attribute that dodge is derived from. -/
def speedId : String := "basic_speed"

/-- The dodge under an encumbrance, at least one. -/
def dodge (s : Sheet) (encumbrance : Encumbrance) : Fixed :=
  let speed := max (s.attributeCurrent speedId) 0
  max ((speed + s.dodgeBonus).trunc + 3 + encumbrance.penalty) 1

/-- The number at the start of the tech level; without a number, or below zero, zero. -/
def techLevelValue (s : Sheet) : Fixed :=
  let digits := (Text.trimChars s.techLevel.toList).takeWhile fun c =>
    Decimal.isDigit c || c == '.'
  max (((Decimal.readFloat? digits).map Fixed.ofFloat).getD 0) 0

end Sheet

end CharacterSheet
