import CharacterSheet.Fixed

/-!
# Where an item comes from
-/

namespace CharacterSheet

/-- The library and the id there of the item that an item was copied from. -/
structure SourceRef where
  library : String
  id : String
deriving DecidableEq, Repr

/-- The four kinds of items. -/
inductive ItemKind where
  | trait | skill | spell | equipment
deriving DecidableEq, Repr

namespace ItemKind

def text : ItemKind → String
  | trait => "trait"
  | skill => "skill"
  | spell => "spell"
  | equipment => "equipment"

/-- The kind with a name. -/
def ofText? (text : String) : Option ItemKind :=
  [trait, skill, spell, equipment].find? fun kind => kind.text == text

end ItemKind

end CharacterSheet
