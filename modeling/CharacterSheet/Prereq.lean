import CharacterSheet.Digest.Source
import CharacterSheet.Placeholder

/-!
# Prerequisites

A prerequisite is a tree of conditions. A leaf is a requirement on one part of a
character; a list asks for all of its members or for one of them, and may apply at
certain tech levels only.

This module holds the trees, their placeholders and their source content. What they
mean for a character stands in `Sheet.Prerequisites`.
-/

namespace CharacterSheet

/-! ### Requirements -/

/-- A trait with a name, notes and a level. -/
structure TraitRequirement where
  has : Bool := true
  name : StringCriteria := .any
  level : NumericCriteria := .any
  notes : StringCriteria := .any
deriving DecidableEq, Repr

/-- The value of an attribute, or the sum of two. -/
structure AttributeRequirement where
  has : Bool := true
  which : String
  combinedWith : Option String := none
  qualifier : NumericCriteria := .any
deriving DecidableEq, Repr

/-- The number of things in the container. -/
structure QuantityRequirement where
  has : Bool := true
  qualifier : NumericCriteria := .any
deriving DecidableEq, Repr

/-- The weight of the things in the container. -/
structure WeightRequirement where
  has : Bool := true
  qualifier : WeightCriteria := {}
deriving DecidableEq, Repr

/-- A skill with a name, a specialization and a level. -/
structure SkillRequirement where
  has : Bool := true
  name : StringCriteria := .any
  level : NumericCriteria := .any
  specialization : StringCriteria := .any
deriving DecidableEq, Repr

/-- What a spell requirement counts. -/
inductive SpellComparison where
  | name | tag | college | collegeCount | any
deriving DecidableEq, Repr, Inhabited

namespace SpellComparison

def key : SpellComparison → String
  | name => "name"
  | tag => "tag"
  | college => "college"
  | collegeCount => "college_count"
  | any => "any"

instance : Keyword SpellComparison where
  all := [name, tag, college, collegeCount, any]
  key := key
  unknown := .value "spell comparison"

end SpellComparison

/-- A number of spells, or of colleges. -/
structure SpellRequirement where
  has : Bool := true
  comparison : SpellComparison := .name
  qualifier : StringCriteria := .any
  quantity : NumericCriteria := .any
deriving DecidableEq, Repr

/-- A piece of equipment that is equipped. -/
structure EquippedRequirement where
  name : StringCriteria := .any
  tags : StringCriteria := .any
deriving DecidableEq, Repr

/-- A condition on one part of a character. -/
inductive Requirement where
  | ofTrait (r : TraitRequirement)
  | ofAttribute (r : AttributeRequirement)
  | ofQuantity (r : QuantityRequirement)
  | ofWeight (r : WeightRequirement)
  | ofSkill (r : SkillRequirement)
  | ofSpell (r : SpellRequirement)
  | ofEquipped (r : EquippedRequirement)
deriving DecidableEq, Repr

namespace Requirement

/-- The name of the kind of a requirement. -/
def kind : Requirement → String
  | ofTrait _ => "trait_prereq"
  | ofAttribute _ => "attribute_prereq"
  | ofQuantity _ => "contained_quantity_prereq"
  | ofWeight _ => "contained_weight_prereq"
  | ofSkill _ => "skill_prereq"
  | ofSpell _ => "spell_prereq"
  | ofEquipped _ => "equipped_equipment"

/-- Whether the condition must hold or must not hold. -/
def has : Requirement → Bool
  | ofTrait r => r.has
  | ofAttribute r => r.has
  | ofQuantity r => r.has
  | ofWeight r => r.has
  | ofSkill r => r.has
  | ofSpell r => r.has
  | ofEquipped _ => true

/-- The texts that may hold placeholders: names, notes, specializations and tags, and
what spells are compared with. -/
def texts : Requirement → List String
  | ofTrait r => [r.name.qualifier, r.notes.qualifier]
  | ofSkill r => [r.name.qualifier, r.specialization.qualifier]
  | ofSpell r => [r.qualifier.qualifier]
  | ofEquipped r => [r.name.qualifier, r.tags.qualifier]
  | ofAttribute _ | ofQuantity _ | ofWeight _ => []

def mapTexts (f : String → String) : Requirement → Requirement
  | ofTrait r =>
    ofTrait
      { r with
        name := HasPlaceholders.mapTexts f r.name
        notes := HasPlaceholders.mapTexts f r.notes }
  | ofSkill r =>
    ofSkill
      { r with
        name := HasPlaceholders.mapTexts f r.name
        specialization := HasPlaceholders.mapTexts f r.specialization }
  | ofSpell r => ofSpell { r with qualifier := HasPlaceholders.mapTexts f r.qualifier }
  | ofEquipped r =>
    ofEquipped
      { r with
        name := HasPlaceholders.mapTexts f r.name
        tags := HasPlaceholders.mapTexts f r.tags }
  | ofAttribute r => ofAttribute r
  | ofQuantity r => ofQuantity r
  | ofWeight r => ofWeight r

instance : HasPlaceholders Requirement where
  texts := texts
  mapTexts := mapTexts

open SourceContent (bytes)

/-- The source content of a requirement, its kind and `has` apart. -/
def conditionBytes : Requirement → List UInt8
  | ofTrait r => bytes r.name ++ bytes r.level ++ bytes r.notes
  | ofAttribute r => bytes r.which ++ bytes r.combinedWith ++ bytes r.qualifier
  | ofQuantity r => bytes r.qualifier
  | ofWeight r => bytes r.qualifier
  | ofSkill r => bytes r.name ++ bytes r.level ++ bytes r.specialization
  | ofSpell r => bytes r.comparison.key ++ bytes r.qualifier ++ bytes r.quantity
  | ofEquipped r => bytes r.name ++ bytes r.tags

instance : SourceContent Requirement where
  bytes r := bytes r.kind ++ bytes r.has ++ r.conditionBytes

end Requirement

/-! ### Trees -/

/-- A tree of requirements. -/
inductive Prereq where
  | leaf (r : Requirement)
  | list (all : Bool) (whenTl : NumericCriteria) (members : List Prereq)
deriving Repr, Inhabited

namespace Prereq

mutual

/-- Equality of trees is decided from the root down. -/
def decEq : (p q : Prereq) → Decidable (p = q)
  | leaf r, leaf s =>
    if h : r = s then isTrue (by rw [h]) else isFalse fun e => by cases e; exact h rfl
  | list all whenTl ps, list all' whenTl' qs =>
    if h : all = all' ∧ whenTl = whenTl' then
      match decEqMembers ps qs with
      | isTrue e => isTrue (by rw [h.1, h.2, e])
      | isFalse n => isFalse fun e => by cases e; exact n rfl
    else isFalse fun e => by cases e; exact h ⟨rfl, rfl⟩
  | leaf _, list .. => isFalse fun e => by cases e
  | list .., leaf _ => isFalse fun e => by cases e
termination_by structural p => p

def decEqMembers : (ps qs : List Prereq) → Decidable (ps = qs)
  | [], [] => isTrue rfl
  | p :: ps, q :: qs =>
    match decEq p q, decEqMembers ps qs with
    | isTrue e, isTrue e' => isTrue (by rw [e, e'])
    | isFalse n, _ => isFalse fun e => by cases e; exact n rfl
    | _, isFalse n => isFalse fun e => by cases e; exact n rfl
  | [], _ :: _ => isFalse fun e => by cases e
  | _ :: _, [] => isFalse fun e => by cases e
termination_by structural ps => ps

end

instance : DecidableEq Prereq := decEq

/-- The name of the kind of a prerequisite. -/
def kind : Prereq → String
  | leaf r => r.kind
  | list .. => "prereq_list"

/-- Whether the condition of a leaf must hold or must not hold. -/
def has : Prereq → Bool
  | leaf r => r.has
  | list .. => true

/-- The words for a condition that must hold, or must not hold. -/
def hasText (has : Bool) : String := if has then "has" else "does not have"

mutual

/-- The texts of all leaves that may hold placeholders. -/
def texts : Prereq → List String
  | leaf r => r.texts
  | list _ _ members => memberTexts members
termination_by structural p => p

def memberTexts : List Prereq → List String
  | [] => []
  | p :: rest => texts p ++ memberTexts rest
termination_by structural ps => ps

end

mutual

/-- Changes the texts of all leaves that may hold placeholders. -/
def mapTexts (f : String → String) : Prereq → Prereq
  | leaf r => leaf (r.mapTexts f)
  | list all whenTl members => list all whenTl (mapMemberTexts f members)
termination_by structural p => p

def mapMemberTexts (f : String → String) : List Prereq → List Prereq
  | [] => []
  | p :: rest => mapTexts f p :: mapMemberTexts f rest
termination_by structural ps => ps

end

instance : HasPlaceholders Prereq where
  texts := texts
  mapTexts := mapTexts

mutual

/-- The source content of a tree. -/
def contentBytes : Prereq → List UInt8
  | leaf r => SourceContent.bytes r
  | list all whenTl members =>
    SourceContent.bytes "prereq_list" ++ SourceContent.bytes all ++
      SourceContent.bytes whenTl ++ SourceContent.littleEndian 4 members.length ++
      memberBytes members
termination_by structural p => p

def memberBytes : List Prereq → List UInt8
  | [] => []
  | p :: rest => contentBytes p ++ memberBytes rest
termination_by structural ps => ps

end

instance : SourceContent Prereq where
  bytes := contentBytes

end Prereq

/-- A list of prerequisites, as items have it. -/
structure PrereqList where
  all : Bool := true
  whenTl : NumericCriteria := .any
  members : List Prereq := []
deriving DecidableEq, Repr, Inhabited

namespace PrereqList

/-- The list as a tree. -/
def toPrereq (l : PrereqList) : Prereq := .list l.all l.whenTl l.members

instance : HasPlaceholders PrereqList where
  texts l := HasPlaceholders.texts l.members
  mapTexts f l := { l with members := HasPlaceholders.mapTexts f l.members }

instance : SourceContent PrereqList where
  bytes l := SourceContent.bytes l.toPrereq

end PrereqList

end CharacterSheet
