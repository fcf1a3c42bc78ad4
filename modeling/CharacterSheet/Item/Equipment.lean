import CharacterSheet.Feature
import CharacterSheet.Item.Source
import CharacterSheet.ItemId
import CharacterSheet.Prereq

/-!
# Equipment

A piece of equipment may be a container with other pieces in it, to any depth. `Gear`
is what a piece is apart from its contents; `Equipment` adds the contents.

`pieces` lists a piece and all that it contains, containers before their contents, and
`active` lists the pieces that grant their features.
-/

namespace CharacterSheet

/-- A piece of equipment apart from its contents. -/
structure Gear where
  id : ItemId := {}
  name : String
  tags : List String := []
  quantity : Fixed := 1
  weight : Weight := .zero
  equipped : Bool := true
  features : List Feature := []
  prereqs : Option PrereqList := none
  replacements : Replacements := .empty
  source : Option SourceRef := none
  /-- Why the prerequisites are not met, if they are not. -/
  unsatisfiedReason : Option String := none
deriving DecidableEq, Repr

/-- A piece of equipment with its contents. -/
structure Equipment extends Gear where
  children : List Equipment := []
deriving Repr

namespace Equipment

/-! ### Equality -/

mutual

/-- Equality of pieces is decided from the outside in. -/
def decEq : (e f : Equipment) → Decidable (e = f)
  | ⟨gear, children⟩, ⟨gear', children'⟩ =>
    if h : gear = gear' then
      match decEqAll children children' with
      | isTrue h' => isTrue (by rw [h, h'])
      | isFalse n => isFalse fun e => by cases e; exact n rfl
    else isFalse fun e => by cases e; exact h rfl
termination_by structural e => e

def decEqAll : (es fs : List Equipment) → Decidable (es = fs)
  | [], [] => isTrue rfl
  | e :: es, f :: fs =>
    match decEq e f, decEqAll es fs with
    | isTrue h, isTrue h' => isTrue (by rw [h, h'])
    | isFalse n, _ => isFalse fun h => by cases h; exact n rfl
    | _, isFalse n => isFalse fun h => by cases h; exact n rfl
  | [], _ :: _ => isFalse fun h => by cases h
  | _ :: _, [] => isFalse fun h => by cases h
termination_by structural es => es

end

instance : DecidableEq Equipment := decEq

/-! ### Traversals -/

mutual

/-- A piece and everything in it, containers before their contents. -/
def pieces : Equipment → List Equipment
  | ⟨gear, children⟩ => ⟨gear, children⟩ :: piecesAll children
termination_by structural e => e

def piecesAll : List Equipment → List Equipment
  | [] => []
  | e :: rest => pieces e ++ piecesAll rest
termination_by structural es => es

end

mutual

/-- The equipped pieces that stand in no container that is not equipped. Of the contents
of a container the last comes first. -/
def active : Equipment → List Equipment
  | ⟨gear, children⟩ =>
    if gear.equipped then ⟨gear, children⟩ :: activeAll children else []
termination_by structural e => e

def activeAll : List Equipment → List Equipment
  | [] => []
  | e :: rest => activeAll rest ++ active e
termination_by structural es => es

end

mutual

/-- Changes every piece apart from its contents. -/
def mapGear (f : Gear → Gear) : Equipment → Equipment
  | ⟨gear, children⟩ => ⟨f gear, mapGearAll f children⟩
termination_by structural e => e

def mapGearAll (f : Gear → Gear) : List Equipment → List Equipment
  | [] => []
  | e :: rest => mapGear f e :: mapGearAll f rest
termination_by structural es => es

end

mutual

/-- Replaces the gear of every piece by `f` of the piece with its contents as they
were. -/
def rebuild (f : Equipment → Gear) : Equipment → Equipment
  | ⟨gear, children⟩ => ⟨f ⟨gear, children⟩, rebuildAll f children⟩
termination_by structural e => e

def rebuildAll (f : Equipment → Gear) : List Equipment → List Equipment
  | [] => []
  | e :: rest => rebuild f e :: rebuildAll f rest
termination_by structural es => es

end

mutual

/-- Gives ids to a piece and everything in it, containers before their contents,
counting on from `last`. Also gives the last id used. -/
def assignIds (last : Nat) : Equipment → Equipment × Nat
  | ⟨gear, children⟩ =>
    let (children, next) := assignIdsAll (last + 1) children
    (⟨{ gear with id := ⟨last + 1⟩ }, children⟩, next)
termination_by structural e => e

def assignIdsAll (last : Nat) : List Equipment → List Equipment × Nat
  | [] => ([], last)
  | e :: rest =>
    let (e, next) := assignIds last e
    let (rest, last) := assignIdsAll next rest
    (e :: rest, last)
termination_by structural es => es

end

mutual

/-- The weight of a piece with everything in it: its unit weight times its quantity,
and the extended weights of its contents. -/
def extendedWeight : Equipment → Weight
  | ⟨gear, children⟩ => gear.weight * gear.quantity + extendedWeightFrom .zero children
termination_by structural e => e

/-- Adds the extended weights of a list to a sum, from left to right. -/
def extendedWeightFrom (sum : Weight) : List Equipment → Weight
  | [] => sum
  | e :: rest => extendedWeightFrom (sum + extendedWeight e) rest
termination_by structural es => es

end

def isContainer (e : Equipment) : Bool := !e.children.isEmpty

/-- The name with values for its tokens. -/
def displayName (e : Equipment) : String := Placeholder.substitute e.replacements e.name

/-! ### Placeholders and source content -/

mutual

/-- The texts of a piece and everything in it that may hold placeholders. -/
def texts : Equipment → List String
  | ⟨gear, children⟩ =>
    gear.name :: HasPlaceholders.texts gear.features ++ HasPlaceholders.texts gear.prereqs ++
      textsAll children
termination_by structural e => e

def textsAll : List Equipment → List String
  | [] => []
  | e :: rest => texts e ++ textsAll rest
termination_by structural es => es

end

/-- Changes the texts of a piece that may hold placeholders, its contents apart. -/
def mapGearTexts (f : String → String) (gear : Gear) : Gear :=
  { gear with
    name := f gear.name
    features := HasPlaceholders.mapTexts f gear.features
    prereqs := HasPlaceholders.mapTexts f gear.prereqs }

instance : HasPlaceholders Equipment where
  texts := texts
  mapTexts f := mapGear (mapGearTexts f)

/-- The contents of a container are no part of its own source content. -/
instance : SourceContent Equipment where
  bytes e :=
    SourceContent.bytes e.name ++ SourceContent.bytes e.tags ++ SourceContent.bytes e.weight ++
      SourceContent.bytes e.features ++ SourceContent.bytes e.prereqs

end Equipment

end CharacterSheet
