import CharacterSheet.Document.Feature
import CharacterSheet.Document.Prereq
import CharacterSheet.Item.Equipment
import CharacterSheet.Item.Skill
import CharacterSheet.Item.Spell
import CharacterSheet.Item.Trait

/-!
# Documents of items

Ids, levels of skills and spells, and the reasons why prerequisites are not met are
derived state: they are neither written nor read.
-/

namespace CharacterSheet.Document

instance : Document SourceRef where
  read := Reader.record ["library", "id"] fun r => do
    return { library := ← r.required "library" read, id := ← r.required "id" read }
  write s := ofMembers [member "library" s.library, member "id" s.id]

instance : Document Difficulty := ⟨Reader.parsed Difficulty.parse, fun d => .string d.text⟩

instance : Document DefaultBase where
  read := Reader.parsed fun text => .ok (.parse text)
  write b := .string b.id

instance : Document SkillDefault where
  read := Reader.record
    ["type", "name", "specialization", "modifier", "level", "adjusted_level", "points"]
    fun r => do
      return {
        base := ← r.required "type" read
        name := ← r.optional "name" "" read
        specialization := ← r.optional "specialization" "" read
        modifier := ← r.optional "modifier" 0 read
        level := ← r.optional "level" 0 read
        adjustedLevel := ← r.optional "adjusted_level" 0 read
        points := ← r.optional "points" 0 read }
  write d :=
    ofMembers
      [member "type" d.base, memberUnless "" "name" d.name,
        memberUnless "" "specialization" d.specialization, memberUnless 0 "modifier" d.modifier,
        memberUnless 0 "level" d.level, memberUnless 0 "adjusted_level" d.adjustedLevel,
        memberUnless 0 "points" d.points]

instance : Document Trait where
  read := Reader.record
    ["name", "notes", "tags", "levels", "disabled", "features", "prereqs", "replacements",
      "source"]
    fun r => do
      return {
        name := ← r.required "name" read
        notes := ← r.optional "notes" "" read
        tags := ← r.optional "tags" [] read
        levels := ← r.optional "levels" none read
        disabled := ← r.optional "disabled" false read
        features := ← r.optional "features" [] read
        prereqs := ← r.optional "prereqs" none read
        replacements := ← r.optional "replacements" .empty read
        source := ← r.optional "source" none read }
  write t :=
    ofMembers
      [member "name" t.name, memberUnless "" "notes" t.notes, memberUnless [] "tags" t.tags,
        memberUnless none "levels" t.levels, memberUnless false "disabled" t.disabled,
        memberUnless [] "features" t.features, memberUnless none "prereqs" t.prereqs,
        memberUnless .empty "replacements" t.replacements, memberUnless none "source" t.source]

instance : Document Skill where
  read := Reader.record
    ["name", "specialization", "tags", "difficulty", "points", "defaults", "features", "prereqs",
      "replacements", "source"]
    fun r => do
      return {
        name := ← r.required "name" read
        specialization := ← r.optional "specialization" "" read
        tags := ← r.optional "tags" [] read
        difficulty := ← r.required "difficulty" read
        points := ← r.optional "points" 0 read
        defaults := ← r.optional "defaults" [] read
        features := ← r.optional "features" [] read
        prereqs := ← r.optional "prereqs" none read
        replacements := ← r.optional "replacements" .empty read
        source := ← r.optional "source" none read }
  write k :=
    ofMembers
      [member "name" k.name, memberUnless "" "specialization" k.specialization,
        memberUnless [] "tags" k.tags, member "difficulty" k.difficulty,
        memberUnless 0 "points" k.points, memberUnless [] "defaults" k.defaults,
        memberUnless [] "features" k.features, memberUnless none "prereqs" k.prereqs,
        memberUnless .empty "replacements" k.replacements, memberUnless none "source" k.source]

instance : Document Spell where
  read := Reader.record
    ["name", "college", "power_source", "tags", "difficulty", "points", "prereqs",
      "replacements", "source"]
    fun r => do
      return {
        name := ← r.required "name" read
        college := ← r.optional "college" [] read
        powerSource := ← r.optional "power_source" "" read
        tags := ← r.optional "tags" [] read
        difficulty := ← r.required "difficulty" read
        points := ← r.optional "points" 0 read
        prereqs := ← r.optional "prereqs" none read
        replacements := ← r.optional "replacements" .empty read
        source := ← r.optional "source" none read }
  write p :=
    ofMembers
      [member "name" p.name, memberUnless [] "college" p.college,
        memberUnless "" "power_source" p.powerSource, memberUnless [] "tags" p.tags,
        member "difficulty" p.difficulty, memberUnless 0 "points" p.points,
        memberUnless none "prereqs" p.prereqs,
        memberUnless .empty "replacements" p.replacements, memberUnless none "source" p.source]

/-! ### Equipment -/

def equipmentFields : List Field :=
  ["name", "tags", "quantity", "weight", "equipped", "features", "prereqs", "children",
    "replacements", "source"]

/-- A piece of equipment as its fields give it, with `element` for its contents. -/
def readEquipmentWith (element : Reader Equipment) (r : Record) :
    Except DocumentError Equipment := do
  return {
    name := ← r.required "name" read
    tags := ← r.optional "tags" [] read
    quantity := ← r.optional "quantity" 1 read
    weight := ← r.optional "weight" .zero read
    equipped := ← r.optional "equipped" true read
    features := ← r.optional "features" [] read
    prereqs := ← r.optional "prereqs" none read
    children := ← r.optional "children" [] (Reader.list element)
    replacements := ← r.optional "replacements" .empty read
    source := ← r.optional "source" none read }

/-- Reads a piece with fewer than `levels` pieces inside one another. -/
def readEquipmentWithin : (levels : Nat) → Reader Equipment
  | 0 => fun _ _ => .error .malformed
  | levels + 1 => Reader.record equipmentFields (readEquipmentWith (readEquipmentWithin levels))

/-- Reads a piece of equipment. Each piece inside another takes room in the document. -/
def readEquipment : Reader Equipment := fun scope =>
  readEquipmentWithin (scope.room + 1) scope

mutual

/-- The document of a piece of equipment. -/
def writeEquipment : Equipment → Json
  | ⟨gear, children⟩ =>
    ofMembers
      [member "name" gear.name, memberUnless [] "tags" gear.tags,
        memberUnless 1 "quantity" gear.quantity, memberUnless .zero "weight" gear.weight,
        member "equipped" gear.equipped, memberUnless [] "features" gear.features,
        memberUnless none "prereqs" gear.prereqs,
        if children.isEmpty then [] else [("children", .array (writeEquipmentAll children))],
        memberUnless .empty "replacements" gear.replacements,
        memberUnless none "source" gear.source]
termination_by structural e => e

def writeEquipmentAll : List Equipment → List Json
  | [] => []
  | e :: rest => writeEquipment e :: writeEquipmentAll rest
termination_by structural es => es

end

instance : Document Equipment := ⟨readEquipment, writeEquipment⟩

end CharacterSheet.Document
