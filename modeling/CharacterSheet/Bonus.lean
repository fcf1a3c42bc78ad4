import CharacterSheet.Feature
import CharacterSheet.ItemId
import CharacterSheet.KeyMap

/-!
# Bonuses

A bonus is a feature attached to the item that grants it. A `BonusTable` files bonuses
under the keys of their features. A query looks at the buckets that can hold bonuses
to its target and selects those whose criteria the target meets; within a bucket,
bonuses stand in the order in which they were filed.
-/

namespace CharacterSheet

/-- A feature with its owner, at the owner's level. -/
structure Bonus where
  owner : ItemId
  feature : Feature
deriving DecidableEq, Repr

namespace Bonus

/-- The bonus that a feature grants at a level of its owner. -/
def ofFeature (owner : ItemId) (feature : Feature) (level : Fixed) : Bonus :=
  ⟨owner, feature.atLevel level⟩

def level (b : Bonus) : Fixed := b.feature.amount.level

/-- The bonus at another level. -/
def setLevel (b : Bonus) (level : Fixed) : Bonus :=
  { b with feature := b.feature.atLevel level }

/-- The amount of the bonus at its level. -/
def amount (b : Bonus) : Fixed := b.feature.amount.adjusted

/-- Writes the line of a bonus at the end of a tooltip. -/
def addToTooltip (nameOf : ItemId → String) (b : Bonus) (tooltip : String) : String :=
  tooltip ++ b.feature.tooltipLine (nameOf b.owner)

/-- Adds up bonuses. A tooltip, if one is being written, gets a line for each. -/
def total (nameOf : ItemId → String) (bonuses : List Bonus) (tooltip : Option String) :
    Fixed × Option String :=
  bonuses.foldl (fun sum b => (sum.1 + b.amount, sum.2.map (b.addToTooltip nameOf)))
    (0, tooltip)

/-- The sum of bonuses does not depend on the tooltip. -/
theorem total_fst (nameOf : ItemId → String) (bonuses : List Bonus) (tooltip : Option String) :
    (total nameOf bonuses tooltip).1 = Fixed.sum (bonuses.map amount) := by
  have h (bs : List Bonus) (sum : Fixed) (t : Option String) :
      (bs.foldl (fun sum b => (sum.1 + b.amount, sum.2.map (b.addToTooltip nameOf))) (sum, t)).1 =
        (bs.map amount).foldl (· + ·) sum := by
    induction bs generalizing sum t with
    | nil => rfl
    | cons b rest ih => exact ih _ _
  exact h bonuses 0 tooltip

end Bonus

/-- Bonuses by the keys of their features. -/
structure BonusTable where
  buckets : KeyMap (List Bonus) := .empty
deriving DecidableEq, Repr, Inhabited

namespace BonusTable

/-- The table without bonuses. -/
def empty : BonusTable := {}

/-- Files a bonus at the end of its bucket. -/
def insert (t : BonusTable) (b : Bonus) : BonusTable :=
  ⟨t.buckets.alter b.feature.key fun bucket => bucket.getD [] ++ [b]⟩

/-- The table with the given bonuses, filed one after the other. -/
def ofList (bonuses : List Bonus) : BonusTable := bonuses.foldl insert empty

/-- The bonuses under a key. -/
def bucket (t : BonusTable) (key : String) : List Bonus := (t.buckets.get? key).getD []

@[simp] theorem bucket_empty (key : String) : empty.bucket key = [] := rfl

/-- A bonus is filed in the bucket of its key and in no other. -/
theorem bucket_insert (t : BonusTable) (b : Bonus) (key : String) :
    (t.insert b).bucket key = if key = b.feature.key then t.bucket key ++ [b] else t.bucket key := by
  simp only [bucket, insert, KeyMap.get?_alter]
  split
  · next h => simp [h]
  · rfl

/-- The keys of the buckets in ascending order. -/
def keys (t : BonusTable) : List String := t.buckets.keys

def size (t : BonusTable) : Nat := t.buckets.size

def isEmpty (t : BonusTable) : Bool := t.buckets.isEmpty

/-- The bonuses under several keys. -/
def bucketsOf (t : BonusTable) (keys : List String) : List Bonus := keys.flatMap t.bucket

/-! ### Queries -/

/-- The bucket of a target and the wildcard bucket of its family. -/
def targetKeys (family target : String) : List String :=
  [BonusKey.exact family target, BonusKey.wildcard family]

/-- The bonuses to an attribute under a limitation. -/
def attributeBonuses (t : BonusTable) (id : String) (limitation : AttributeLimitation) :
    List Bonus :=
  (t.bucket (BonusKey.forAttribute id limitation)).filter fun b =>
    match b.feature with
    | .attributeBonus _ => true
    | _ => false

/-- The bonuses to a skill. -/
def skillBonuses (t : BonusTable) (name specialization : String) (tags : List String) :
    List Bonus :=
  (t.bucketsOf (targetKeys BonusKey.skillName name)).filter fun b =>
    match b.feature with
    | .skillBonus s => s.selection == .skillsWithName && s.reaches name specialization tags
    | _ => false

/-- The keys that bonuses to a spell are filed under, each once, in ascending order. -/
def spellKeys (name : String) (colleges : List String) (powerSource : String) : List String :=
  let keys :=
    BonusKey.spellCollege :: BonusKey.wildcard BonusKey.spellCollege ::
      colleges.map (BonusKey.exact BonusKey.spellCollege) ++
      targetKeys BonusKey.spellPowerSource powerSource ++ targetKeys BonusKey.spellName name
  (KeyMap.ofList (keys.map fun key => (key, ()))).keys

/-- The bonuses to a spell. -/
def spellBonuses (t : BonusTable) (name : String) (colleges : List String)
    (powerSource : String) (tags : List String) : List Bonus :=
  (t.bucketsOf (spellKeys name colleges powerSource)).filter fun b =>
    match b.feature with
    | .spellBonus s => s.reaches name colleges powerSource tags
    | _ => false

/-- The bonuses to a hit location. -/
def drBonuses (t : BonusTable) (location : String) : List Bonus :=
  (t.bucket (BonusKey.hitLocation location)).filter fun b =>
    match b.feature with
    | .drBonus _ => true
    | _ => false

/-- The totals of the reaction bonuses of each situation. -/
def reactions (t : BonusTable) : KeyMap Fixed :=
  (t.bucket BonusKey.reaction).foldl
    (fun totals b =>
      match b.feature with
      | .reactionBonus r => totals.alter r.situation fun sum => sum.getD 0 + b.amount
      | _ => totals)
    .empty

/-! ### Weapons -/

/-- A weapon in use: its owner, name, usage and tags, and the skill that it is used with. -/
structure WeaponUse where
  owner : ItemId
  name : String
  usage : String
  tags : List String
  skillName : String
  skillSpecialization : String
  relativeLevel : Fixed
deriving Repr

/-- What a weapon bonus improves. -/
inductive WeaponEffect where
  | damage | drDivisor
deriving DecidableEq, Repr

/-- The weapon bonus in a feature with the given effect. -/
def weaponBonus? (effect : WeaponEffect) : Feature → Option WeaponBonus
  | .weaponBonus b => if effect = .damage then some b else none
  | .weaponDrDivisorBonus b => if effect = .drDivisor then some b else none
  | _ => none

/-- The bonuses with an effect on a weapon: those that the weapon grants itself, those to
its skill, and those to its name. -/
def weaponBonuses (t : BonusTable) (effect : WeaponEffect) (use : WeaponUse) : List Bonus :=
  let select := fun (bonuses : List Bonus) (p : Bonus → WeaponBonus → Bool) =>
    bonuses.filter fun b => (weaponBonus? effect b.feature).any (p b)
  select (t.bucket BonusKey.thisWeapon)
      (fun b w =>
        w.selection == .thisWeapon && b.owner == use.owner && w.specialization.accepts use.usage) ++
    select (t.bucketsOf (targetKeys BonusKey.skillName use.skillName))
      (fun _ w =>
        w.selection == .withRequiredSkill &&
          w.reachesSkill use.skillName use.skillSpecialization use.relativeLevel use.tags) ++
    select (t.bucketsOf (targetKeys BonusKey.weaponNamed use.name))
      (fun _ w => w.selection == .withName && w.reachesName use.name use.usage use.tags)

/-- The bonuses to the skill that a weapon is used with: those that the weapon grants
itself, and those to its name. -/
def weaponSkillBonuses (t : BonusTable) (use : WeaponUse) : List Bonus :=
  let select := fun (bonuses : List Bonus) (p : Bonus → SkillBonus → Bool) =>
    bonuses.filter fun b =>
      match b.feature with
      | .skillBonus s => p b s
      | _ => false
  select (t.bucket BonusKey.thisWeapon)
      (fun b s =>
        s.selection == .thisWeapon && b.owner == use.owner && s.specialization.accepts use.usage) ++
    select (t.bucketsOf (targetKeys BonusKey.weaponNamed use.name))
      (fun _ s => s.selection == .weaponsWithName && s.reaches use.name use.usage use.tags)

end BonusTable

end CharacterSheet
