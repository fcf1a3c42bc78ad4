import CharacterSheet.Document.Basic
import CharacterSheet.Prereq

/-!
# Documents of prerequisites

A prerequisite is an object whose member `type` is its kind; the list that an item has
is written without it.
-/

namespace CharacterSheet.Document

/-- The kinds of prerequisites in the order in which messages list them. -/
def prereqKinds : List String :=
  ["prereq_list", "trait_prereq", "attribute_prereq", "contained_quantity_prereq",
    "contained_weight_prereq", "skill_prereq", "spell_prereq", "equipped_equipment"]

/-! ### Requirements -/

def readTraitRequirement (r : Record) : Except DocumentError TraitRequirement := do
  return {
    has := ← r.optional "has" true read
    name := ← r.optional "name" .any read
    level := ← r.optional "level" .any read
    notes := ← r.optional "notes" .any read }

def readAttributeRequirement (r : Record) : Except DocumentError AttributeRequirement := do
  return {
    has := ← r.optional "has" true read
    which := ← r.required "which" read
    combinedWith := ← r.optional "combined_with" none read
    qualifier := ← r.optional "qualifier" .any read }

def readQuantityRequirement (r : Record) : Except DocumentError QuantityRequirement := do
  return {
    has := ← r.optional "has" true read
    qualifier := ← r.optional "qualifier" .any read }

def readWeightRequirement (r : Record) : Except DocumentError WeightRequirement := do
  return {
    has := ← r.optional "has" true read
    qualifier := ← r.optional "qualifier" {} read }

def readSkillRequirement (r : Record) : Except DocumentError SkillRequirement := do
  return {
    has := ← r.optional "has" true read
    name := ← r.optional "name" .any read
    level := ← r.optional "level" .any read
    specialization := ← r.optional "specialization" .any read }

def readSpellRequirement (r : Record) : Except DocumentError SpellRequirement := do
  return {
    has := ← r.optional "has" true read
    comparison := ← r.optional "sub_type" .name read
    qualifier := ← r.optional "qualifier" .any read
    quantity := ← r.optional "quantity" .any read }

def readEquippedRequirement (r : Record) : Except DocumentError EquippedRequirement := do
  return {
    name := ← r.optional "name" .any read
    tags := ← r.optional "tags" .any read }

/-- Reads the fields of a requirement of a given kind. -/
def readRequirementOf (kind : String) (scope : Scope) (shape : Shape) :
    Except DocumentError Requirement :=
  let record := fun (fields : List Field) => Record.ofShape fields scope shape
  match kind with
  | "trait_prereq" =>
    return .ofTrait (← readTraitRequirement (← record ["has", "name", "level", "notes"]))
  | "attribute_prereq" =>
    return .ofAttribute
      (← readAttributeRequirement (← record ["has", "which", "combined_with", "qualifier"]))
  | "contained_quantity_prereq" =>
    return .ofQuantity (← readQuantityRequirement (← record ["has", "qualifier"]))
  | "contained_weight_prereq" =>
    return .ofWeight (← readWeightRequirement (← record ["has", "qualifier"]))
  | "skill_prereq" =>
    return .ofSkill (← readSkillRequirement (← record ["has", "name", "level", "specialization"]))
  | "spell_prereq" =>
    return .ofSpell (← readSpellRequirement (← record ["has", "sub_type", "qualifier", "quantity"]))
  | _ => return .ofEquipped (← readEquippedRequirement (← record ["name", "tags"]))

/-- The members of a requirement apart from its kind. -/
def requirementMembers : Requirement → List (List (String × Json))
  | .ofTrait r =>
    [member "has" r.has, memberUnless .any "name" r.name, memberUnless .any "level" r.level,
      memberUnless .any "notes" r.notes]
  | .ofAttribute r =>
    [member "has" r.has, member "which" r.which,
      memberUnless none "combined_with" r.combinedWith,
      memberUnless .any "qualifier" r.qualifier]
  | .ofQuantity r => [member "has" r.has, memberUnless .any "qualifier" r.qualifier]
  | .ofWeight r => [member "has" r.has, memberUnless {} "qualifier" r.qualifier]
  | .ofSkill r =>
    [member "has" r.has, memberUnless .any "name" r.name, memberUnless .any "level" r.level,
      memberUnless .any "specialization" r.specialization]
  | .ofSpell r =>
    [member "has" r.has, member "sub_type" r.comparison,
      memberUnless .any "qualifier" r.qualifier, memberUnless .any "quantity" r.quantity]
  | .ofEquipped r => [memberUnless .any "name" r.name, memberUnless .any "tags" r.tags]

/-! ### Lists and trees -/

/-- The fields of a list of prerequisites. -/
def prereqListFields : List Field := ["all", "when_tl", "prereqs"]

/-- A list as its fields give it, with `element` for its members. -/
def readPrereqListWith (element : Reader Prereq) (r : Record) :
    Except DocumentError PrereqList := do
  return {
    all := ← r.optional "all" true read
    whenTl := ← r.optional "when_tl" .any read
    members := ← r.optional "prereqs" [] (Reader.list element) }

/-- Reads a tree with fewer than `levels` lists inside one another. -/
def readPrereqWithin : (levels : Nat) → Reader Prereq
  | 0 => fun _ _ => .error .malformed
  | levels + 1 => fun scope j => do
    let (kind, inner, shape) ← readTagged prereqKinds scope j
    if kind == "prereq_list" then
      let r ← Record.ofShape prereqListFields inner shape
      return (← readPrereqListWith (readPrereqWithin levels) r).toPrereq
    else return .leaf (← readRequirementOf kind inner shape)

/-- Reads a tree. Each list inside another takes room in the document. -/
def readPrereq : Reader Prereq := fun scope => readPrereqWithin (scope.room + 1) scope

mutual

/-- The document of a tree. -/
def writePrereq : Prereq → Json
  | .leaf r => ofMembers (member "type" r.kind :: requirementMembers r)
  | .list all whenTl members =>
    ofMembers
      [member "type" "prereq_list", member "all" all, memberUnless .any "when_tl" whenTl,
        if members.isEmpty then [] else [("prereqs", .array (writePrereqs members))]]
termination_by structural p => p

def writePrereqs : List Prereq → List Json
  | [] => []
  | p :: rest => writePrereq p :: writePrereqs rest
termination_by structural ps => ps

end

instance : Document Prereq := ⟨readPrereq, writePrereq⟩

instance : Document PrereqList where
  read := Reader.record prereqListFields (readPrereqListWith readPrereq)
  write l :=
    ofMembers
      [member "all" l.all, memberUnless .any "when_tl" l.whenTl,
        memberUnless [] "prereqs" l.members]

end CharacterSheet.Document
