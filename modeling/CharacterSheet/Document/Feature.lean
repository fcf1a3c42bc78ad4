import CharacterSheet.Document.Basic
import CharacterSheet.Feature

/-!
# Documents of features

A feature is an object whose member `type` is its kind. The fields of its amount stand
beside its own.
-/

namespace CharacterSheet.Document

/-- The kinds of features in the order in which messages list them. -/
def featureKinds : List String :=
  ["attribute_bonus", "skill_bonus", "spell_bonus", "weapon_bonus", "weapon_dr_divisor_bonus",
    "dr_bonus", "reaction_bonus"]

/-- The field of tags in features, which were once called categories. -/
def tagsField : Field := { name := "tags", formerly := some "category" }

/-! ### Kinds -/

def readAttributeBonus (r : Record) : Except DocumentError AttributeBonus := do
  return {
    attributeId := ← r.required "attribute" read
    limitation := ← r.optional "limitation" .none read
    amount := ← readAmount r }

def attributeBonusMembers (b : AttributeBonus) : List (List (String × Json)) :=
  [member "attribute" b.attributeId, memberUnless .none "limitation" b.limitation,
    amountMembers b.amount]

def readSkillBonus (r : Record) : Except DocumentError SkillBonus := do
  return {
    selection := ← r.required "selection_type" read
    name := ← r.optional "name" .any read
    specialization := ← r.optional "specialization" .any read
    tags := ← r.optional "tags" .any read
    amount := ← readAmount r }

def skillBonusMembers (b : SkillBonus) : List (List (String × Json)) :=
  [member "selection_type" b.selection, memberUnless .any "name" b.name,
    memberUnless .any "specialization" b.specialization, memberUnless .any "tags" b.tags,
    amountMembers b.amount]

def readSpellBonus (r : Record) : Except DocumentError SpellBonus := do
  return {
    select := ← r.required "match" read
    name := ← r.optional "name" .any read
    tags := ← r.optional "tags" .any read
    amount := ← readAmount r }

def spellBonusMembers (b : SpellBonus) : List (List (String × Json)) :=
  [member "match" b.select, memberUnless .any "name" b.name, memberUnless .any "tags" b.tags,
    amountMembers b.amount]

def readWeaponBonus (r : Record) : Except DocumentError WeaponBonus := do
  return {
    percent := ← r.optional "percent" false read
    selection := ← r.required "selection_type" read
    name := ← r.optional "name" .any read
    specialization := ← r.optional "specialization" .any read
    level := ← r.optional "level" .any read
    tags := ← r.optional "tags" .any read
    amount := ← readAmount r }

def weaponBonusMembers (b : WeaponBonus) : List (List (String × Json)) :=
  [memberUnless false "percent" b.percent, member "selection_type" b.selection,
    memberUnless .any "name" b.name, memberUnless .any "specialization" b.specialization,
    memberUnless .any "level" b.level, memberUnless .any "tags" b.tags, amountMembers b.amount]

def readDrBonus (r : Record) : Except DocumentError DrBonus := do
  return {
    location := ← r.required "location" read
    specialization := ← r.optional "specialization" "" read
    amount := ← readAmount r }

def drBonusMembers (b : DrBonus) : List (List (String × Json)) :=
  [member "location" b.location, memberUnless "" "specialization" b.specialization,
    amountMembers b.amount]

def readReactionBonus (r : Record) : Except DocumentError ReactionBonus := do
  return {
    situation := ← r.optional "situation" "" read
    amount := ← readAmount r }

def reactionBonusMembers (b : ReactionBonus) : List (List (String × Json)) :=
  [memberUnless "" "situation" b.situation, amountMembers b.amount]

/-! ### Features -/

/-- Reads the fields of a feature with an amount among them. Such a record is never
written as an array. -/
def readFeatureRecord {α : Type} (fields : List Field) (read : Record → Except DocumentError α)
    (scope : Scope) (shape : Shape) : Except DocumentError α := do
  match shape with
  | .members _ => read (← Record.ofShape (fields ++ amountFields) scope shape)
  | .elements _ => .error .malformed

/-- Reads the fields of a feature of a given kind. -/
def readFeatureOf (kind : String) (scope : Scope) (shape : Shape) :
    Except DocumentError Feature :=
  let weaponFields : List Field :=
    ["percent", "selection_type", "name", "specialization", "level", tagsField]
  match kind with
  | "attribute_bonus" =>
    (readFeatureRecord ["attribute", "limitation"] readAttributeBonus scope shape).map
      .attributeBonus
  | "skill_bonus" =>
    (readFeatureRecord ["selection_type", "name", "specialization", tagsField] readSkillBonus
      scope shape).map .skillBonus
  | "spell_bonus" =>
    (readFeatureRecord ["match", "name", tagsField] readSpellBonus scope shape).map .spellBonus
  | "weapon_bonus" =>
    (readFeatureRecord weaponFields readWeaponBonus scope shape).map .weaponBonus
  | "weapon_dr_divisor_bonus" =>
    (readFeatureRecord weaponFields readWeaponBonus scope shape).map .weaponDrDivisorBonus
  | "dr_bonus" =>
    (readFeatureRecord ["location", "specialization"] readDrBonus scope shape).map .drBonus
  | _ => (readFeatureRecord ["situation"] readReactionBonus scope shape).map .reactionBonus

/-- The members of a feature apart from its kind. -/
def featureMembers : Feature → List (List (String × Json))
  | .attributeBonus b => attributeBonusMembers b
  | .skillBonus b => skillBonusMembers b
  | .spellBonus b => spellBonusMembers b
  | .weaponBonus b => weaponBonusMembers b
  | .weaponDrDivisorBonus b => weaponBonusMembers b
  | .drBonus b => drBonusMembers b
  | .reactionBonus b => reactionBonusMembers b

instance : Document Feature where
  read scope j := do
    let (kind, inner, shape) ← readTagged featureKinds scope j
    readFeatureOf kind inner shape
  write f := ofMembers (member "type" f.kind :: featureMembers f)

end CharacterSheet.Document
