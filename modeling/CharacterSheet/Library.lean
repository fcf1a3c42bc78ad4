import CharacterSheet.Sheet

/-!
# Libraries and templates

A library is a named collection of items under ids of its own. A copy of an item
records where it comes from and keeps the author's text: the values chosen for its
tokens go into its replacements, so its source content stays that of the item in the
library. A template is a named list of items to be added to a sheet together.

A `SourceIndex` holds the digests of the items of libraries, by which copies are
compared with their sources.
-/

namespace CharacterSheet

/-- A named collection of items. -/
structure Library where
  name : String
  traits : KeyMap Trait := .empty
  skills : KeyMap Skill := .empty
  spells : KeyMap Spell := .empty
  equipment : KeyMap Equipment := .empty
deriving DecidableEq, Repr

/-- Items that libraries hold. -/
class LibraryItem (α : Type) extends HasPlaceholders α, SourceContent α where
  kind : ItemKind
  /-- The items of this kind in a library. -/
  items : Library → KeyMap α
  source : α → Option SourceRef
  withSource : Option SourceRef → α → α
  /-- Records the values chosen for the tokens of an item. -/
  withChoices : Replacements → α → α

instance : LibraryItem Trait where
  kind := .trait
  items := Library.traits
  source := Trait.source
  withSource source t := { t with source }
  withChoices chosen t := { t with replacements := HasPlaceholders.collect t chosen }

instance : LibraryItem Skill where
  kind := .skill
  items := Library.skills
  source := Skill.source
  withSource source k := { k with source }
  withChoices chosen k := { k with replacements := HasPlaceholders.collect k chosen }

instance : LibraryItem Spell where
  kind := .spell
  items := Library.spells
  source := Spell.source
  withSource source p := { p with source }
  withChoices chosen p := { p with replacements := HasPlaceholders.collect p chosen }

/-- Every piece in a container records the choices for its own tokens and for those of
what it contains. -/
instance : LibraryItem Equipment where
  kind := .equipment
  items := Library.equipment
  source e := e.source
  withSource source e := { e with source }
  withChoices chosen :=
    Equipment.rebuild fun e =>
      { e.toGear with replacements := HasPlaceholders.collect e chosen }

namespace Library

/-- A library without items. -/
def ofName (name : String) : Library := { name }

/-- A copy of an item, with its source and the choices for its tokens. -/
def copy? (α : Type) [LibraryItem α] (l : Library) (id : String) (chosen : Replacements) :
    Option α :=
  ((LibraryItem.items l).get? id).map fun item =>
    LibraryItem.withChoices chosen (LibraryItem.withSource (some ⟨l.name, id⟩) item)

/-- A copy of an item of any kind. -/
def copyItem? (l : Library) (kind : ItemKind) (id : String) (chosen : Replacements) :
    Option Item :=
  match kind with
  | .trait => (l.copy? Trait id chosen).map .ofTrait
  | .skill => (l.copy? Skill id chosen).map .ofSkill
  | .spell => (l.copy? Spell id chosen).map .ofSpell
  | .equipment => (l.copy? Equipment id chosen).map .ofEquipment

end Library

/-! ### Comparing copies with their sources -/

/-- How a copy compares with its source. -/
inductive SourceStatus where
  | matched | mismatched | missing
deriving DecidableEq, Repr

namespace SourceStatus

def text : SourceStatus → String
  | matched => "matched"
  | mismatched => "mismatched"
  | missing => "missing"

end SourceStatus

/-- The place of an item among libraries. -/
structure SourceKey where
  library : String
  kind : ItemKind
  id : String
deriving DecidableEq, Repr

/-- The digests of the items of libraries. -/
structure SourceIndex where
  digests : List (SourceKey × Digest) := []
deriving Repr, Inhabited

namespace SourceIndex

/-- The digests of the items of one kind. -/
def digestsOf (α : Type) [LibraryItem α] (l : Library) : List (SourceKey × Digest) :=
  (LibraryItem.items (α := α) l).entries.map fun e =>
    (⟨l.name, LibraryItem.kind α, e.1⟩, SourceContent.digest e.2)

/-- Enters the items of a library, in place of all that was entered for a library of
that name. -/
def prepare (x : SourceIndex) (l : Library) : SourceIndex :=
  ⟨x.digests.filter (fun e => e.1.library != l.name) ++ digestsOf Trait l ++ digestsOf Skill l ++
    digestsOf Spell l ++ digestsOf Equipment l⟩

def size (x : SourceIndex) : Nat := x.digests.length

def isEmpty (x : SourceIndex) : Bool := x.digests.isEmpty

/-- The digest of the item at a place. -/
def digest? (x : SourceIndex) (key : SourceKey) : Option Digest :=
  x.digests.findSome? fun e => if e.1 = key then some e.2 else none

/-- How an item compares with its source; an item without one has no status. -/
def status? {α : Type} [LibraryItem α] (x : SourceIndex) (item : α) : Option SourceStatus :=
  (LibraryItem.source item).map fun source =>
    match x.digest? ⟨source.library, LibraryItem.kind α, source.id⟩ with
    | some expected => if expected = SourceContent.digest item then .matched else .mismatched
    | none => .missing

/-- How an item of any kind compares with its source. -/
def statusOf? (x : SourceIndex) : Item → Option SourceStatus
  | .ofTrait t => x.status? t
  | .ofSkill k => x.status? k
  | .ofSpell p => x.status? p
  | .ofEquipment e => x.status? e

/-- The comparisons of the items in a list that have a source. -/
def reportOf {α : Type} [LibraryItem α] (x : SourceIndex) (idOf : α → ItemId) (items : List α) :
    List (ItemId × SourceStatus) :=
  items.filterMap fun item => (x.status? item).map fun status => (idOf item, status)

/-- The comparisons of all items on a sheet that have a source. -/
def report (x : SourceIndex) (s : Sheet) : List (ItemId × SourceStatus) :=
  x.reportOf Trait.id s.traits ++ x.reportOf Skill.id s.skills ++ x.reportOf Spell.id s.spells ++
    x.reportOf (fun e => e.id) s.pieces

end SourceIndex

/-! ### Templates -/

/-- A named list of items. -/
structure Template where
  name : String := ""
  traits : List Trait := []
  skills : List Skill := []
  spells : List Spell := []
  equipment : List Equipment := []
deriving DecidableEq, Repr, Inhabited

namespace Template

instance : HasPlaceholders Template where
  texts t :=
    HasPlaceholders.texts t.traits ++ HasPlaceholders.texts t.skills ++
      HasPlaceholders.texts t.spells ++ HasPlaceholders.texts t.equipment
  mapTexts f t :=
    { t with
      traits := HasPlaceholders.mapTexts f t.traits
      skills := HasPlaceholders.mapTexts f t.skills
      spells := HasPlaceholders.mapTexts f t.spells
      equipment := HasPlaceholders.mapTexts f t.equipment }

/-- The tokens of all items, each with itself as its value. -/
def tokens (t : Template) : Replacements := HasPlaceholders.collect t .empty

/-- Adds items one after the other, with the values chosen for their tokens. -/
def addAll {α : Type} [LibraryItem α] (add : Sheet → α → Sheet × ItemId)
    (chosen : Replacements) (items : List α) (state : Sheet × List ItemId) :
    Sheet × List ItemId :=
  items.foldl
    (fun state item =>
      let (s, id) := add state.1 (LibraryItem.withChoices chosen item)
      (s, state.2 ++ [id]))
    state

/-- Adds the items of a template to a sheet: traits, skills, spells and equipment. Gives
the ids of the items added. -/
def applyTo (t : Template) (s : Sheet) (chosen : Replacements) : Sheet × List ItemId :=
  addAll Sheet.addEquipment chosen t.equipment
    (addAll Sheet.addSpell chosen t.spells
      (addAll Sheet.addSkill chosen t.skills
        (addAll Sheet.addTrait chosen t.traits (s, []))))

end Template

end CharacterSheet
