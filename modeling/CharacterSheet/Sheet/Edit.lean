import CharacterSheet.Document.Item
import CharacterSheet.Sheet

/-!
# Editing items

An item is edited through its document: some members get new values, and the result is
read back as an item of the same kind. What documents do not hold stays as it was: the
id, the level and the reason why prerequisites are not met. The contents of a container
stay as well; they are edited under ids of their own.
-/

namespace CharacterSheet

namespace Json

/-- Gives a member of an object a new value; null takes the member away. -/
def setMember (members : List (String × Json)) (name : String) (value : Json) :
    List (String × Json) :=
  let others := members.filter (·.1 != name)
  match value with
  | .null => others
  | value => others ++ [(name, value)]

/-- Gives members of an object new values. -/
def patch (changes : List (String × Json)) : Json → Json
  | .object members => .object (changes.foldl (fun ms c => setMember ms c.1 c.2) members)
  | j => j

end Json

namespace Document

/-- A value with changes in its document. -/
def edited {α : Type} [Document α] (a : α) (changes : List (String × Json)) :
    Except RuleError α :=
  ofJson ((write a).patch changes)

end Document

namespace Item

/-- The document of an item. -/
def document : Item → Json
  | ofTrait t => Document.write t
  | ofSkill k => Document.write k
  | ofSpell p => Document.write p
  | ofEquipment e => Document.write e

/-- An item with changes in its document, its derived state as it was. -/
def edit (changes : List (String × Json)) : Item → Except RuleError Item
  | ofTrait t => do
    let new ← Document.edited t changes
    return ofTrait { new with id := t.id, unsatisfiedReason := t.unsatisfiedReason }
  | ofSkill k => do
    let new ← Document.edited k changes
    return ofSkill
      { new with id := k.id, level := k.level, unsatisfiedReason := k.unsatisfiedReason }
  | ofSpell p => do
    let new ← Document.edited p changes
    return ofSpell
      { new with id := p.id, level := p.level, unsatisfiedReason := p.unsatisfiedReason }
  | ofEquipment e => do
    let new ← Document.edited e changes
    return ofEquipment
      { new with id := e.id, unsatisfiedReason := e.unsatisfiedReason, children := e.children }

end Item

namespace Sheet

/-- Puts an item in the place of the one with its id, the contents of a container apart. -/
def replaceItem (s : Sheet) : Item → Sheet
  | .ofTrait t => { s with traits := s.traits.map fun old => if old.id = t.id then t else old }
  | .ofSkill k => { s with skills := s.skills.map fun old => if old.id = k.id then k else old }
  | .ofSpell p => { s with spells := s.spells.map fun old => if old.id = p.id then p else old }
  | .ofEquipment e =>
    { s with
      equipment :=
        Equipment.mapGearAll (fun old => if old.id = e.id then e.toGear else old) s.equipment }

/-- Edits the item with an id. -/
def edit (s : Sheet) (id : ItemId) (changes : List (String × Json)) : Except RuleError Sheet :=
  match s.item? id with
  | none => .error (.unknownItem id)
  | some item => (item.edit changes).map s.replaceItem

/-- Takes the item with an id away, unless it stands in a container. -/
def remove (s : Sheet) (id : ItemId) : Sheet :=
  { s with
    traits := s.traits.filter (·.id != id)
    skills := s.skills.filter (·.id != id)
    spells := s.spells.filter (·.id != id)
    equipment := s.equipment.filter (·.id != id) }

end Sheet

end CharacterSheet
