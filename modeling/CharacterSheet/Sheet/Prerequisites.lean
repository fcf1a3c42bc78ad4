import CharacterSheet.Sheet

/-!
# Prerequisites of a character

A requirement asks whether its condition holds for the sheet, and is met when that is as
its `has` says. A tree of prerequisites is evaluated to a verdict; if a tooltip is being
written and the verdict is negative, an explanation is written at its end, one line for
the root and one for each member of a list that is not met, indented below the list.

The item that the prerequisites belong to is excluded: it never counts for its own
requirements, and it is the container that contained quantities and weights are about.
-/

namespace CharacterSheet

namespace TraitRequirement

def holds (r : TraitRequirement) (s : Sheet) (excluded : Option ItemId) : Bool :=
  s.traits.any fun t =>
    some t.id != excluded && !t.disabled && r.name.accepts t.displayName &&
      r.notes.accepts t.displayNotes && r.level.accepts t.currentLevel

def describe (r : TraitRequirement) : String :=
  " a trait whose name " ++ r.name.text ++
    (if r.notes.isAny then "" else ", notes " ++ r.notes.text) ++
    (if r.level.isAny then "" else ", and level " ++ r.level.text)

end TraitRequirement

namespace AttributeRequirement

/-- Without the attributes that it names, a requirement does not hold. -/
def holds (r : AttributeRequirement) (s : Sheet) : Bool :=
  let first := s.attributeCurrent r.which
  if first.isUndefined then false
  else
    match r.combinedWith with
    | none => r.qualifier.accepts first
    | some other =>
      let second := s.attributeCurrent other
      if second.isUndefined then false else r.qualifier.accepts (first + second)

def describe (r : AttributeRequirement) (s : Sheet) : String :=
  " " ++ s.attributeName r.which ++
    (match r.combinedWith with
    | none => ""
    | some other => " combined with " ++ s.attributeName other) ++
    " which " ++ r.qualifier.text

end AttributeRequirement

/-- Asks about the container with an id. A piece of equipment that contains nothing meets
every requirement on its contents, and what is no equipment meets none. -/
def Sheet.containerHolds (s : Sheet) (container : Option ItemId) (p : Equipment → Bool) : Bool :=
  match container.bind s.equipment? with
  | none => false
  | some e => if e.isContainer then p e else true

namespace QuantityRequirement

def holds (r : QuantityRequirement) (s : Sheet) (container : Option ItemId) : Bool :=
  s.containerHolds container fun e => r.qualifier.accepts (Fixed.sum (e.children.map (·.quantity)))

end QuantityRequirement

namespace WeightRequirement

/-- The weight that is compared: what the container weighs with its contents beyond its
own unit weight. -/
def containedWeight (e : Equipment) : Weight := e.extendedWeight - e.weight

def holds (r : WeightRequirement) (s : Sheet) (container : Option ItemId) : Bool :=
  s.containerHolds container fun e => r.qualifier.accepts (containedWeight e)

end WeightRequirement

namespace SkillRequirement

def holds (r : SkillRequirement) (s : Sheet) (excluded : Option ItemId) : Bool :=
  s.skills.any fun k =>
    some k.id != excluded && r.name.accepts k.displayName &&
      r.specialization.accepts k.displaySpecialization && r.level.accepts k.level.level

def describe (r : SkillRequirement) : String :=
  " a skill whose name " ++ r.name.text ++
    (if r.specialization.isAny then "" else ", specialization " ++ r.specialization.text) ++
    (if r.level.isAny then "" else ", and level " ++ r.level.text)

end SkillRequirement

namespace SpellRequirement

/-- The number that is compared: of spells, or of different colleges. -/
def count (r : SpellRequirement) (s : Sheet) (excluded : Option ItemId) : Nat :=
  let spells := s.spells.filter fun p => some p.id != excluded
  match r.comparison with
  | .name => spells.countP fun p => r.qualifier.accepts p.displayName
  | .tag => spells.countP fun p => r.qualifier.acceptsList p.tags
  | .college => spells.countP fun p => r.qualifier.acceptsList p.displayCollege
  | .collegeCount => (spells.flatMap Spell.displayCollege).eraseDups.length
  | .any => spells.length

def holds (r : SpellRequirement) (s : Sheet) (excluded : Option ItemId) : Bool :=
  r.quantity.accepts (.ofInt (r.count s excluded))

def describe (r : SpellRequirement) : String :=
  match r.comparison with
  | .collegeCount => " a college count which " ++ r.quantity.text
  | .any => " spells of any kind whose count " ++ r.quantity.text
  | other =>
    " spells whose " ++ other.key ++ " " ++ r.qualifier.text ++ " and whose count " ++
      r.quantity.text

end SpellRequirement

namespace EquippedRequirement

def holds (r : EquippedRequirement) (s : Sheet) (excluded : Option ItemId) : Bool :=
  s.pieces.any fun e =>
    some e.id != excluded && e.equipped && r.name.accepts e.displayName &&
      r.tags.acceptsList e.tags

def describe (r : EquippedRequirement) : String :=
  "Requires equipment whose name " ++ r.name.text ++
    (if r.tags.isAny then "" else ", and tags " ++ r.tags.text) ++ " to be equipped"

end EquippedRequirement

namespace Requirement

/-- Whether the condition of a requirement holds. -/
def holds (r : Requirement) (s : Sheet) (excluded : Option ItemId) : Bool :=
  match r with
  | ofTrait r => r.holds s excluded
  | ofAttribute r => r.holds s
  | ofQuantity r => r.holds s excluded
  | ofWeight r => r.holds s excluded
  | ofSkill r => r.holds s excluded
  | ofSpell r => r.holds s excluded
  | ofEquipped r => r.holds s excluded

/-- Whether a requirement is met: its condition holds as `has` says. -/
def isMet (r : Requirement) (s : Sheet) (excluded : Option ItemId) : Bool :=
  r.holds s excluded == r.has

/-- The line that explains a requirement, whether or not it is met. -/
def line (r : Requirement) (s : Sheet) : String :=
  match r with
  | ofEquipped r => r.describe
  | ofTrait r => Prereq.hasText r.has ++ r.describe
  | ofAttribute r => Prereq.hasText r.has ++ r.describe s
  | ofQuantity r =>
    Prereq.hasText r.has ++ " a contained quantity which " ++ r.qualifier.text
  | ofWeight r =>
    Prereq.hasText r.has ++ " a contained weight which " ++
      r.qualifier.describe s.settings.weightUnit
  | ofSkill r => Prereq.hasText r.has ++ r.describe
  | ofSpell r => Prereq.hasText r.has ++ r.describe

end Requirement

namespace Prereq

/-- What the lines of a list's members start with: a line break, two blanks and the start
of the list's own line without its line breaks. -/
def indent (lead : String) : String :=
  "\n  " ++ String.ofList (lead.toList.dropWhile (· == '\n'))

/-- The first line of a list that is not met. -/
def heading (all : Bool) : String :=
  if all then "Requires all of:" else "Requires at least one of:"

mutual

/-- Evaluates a tree. If it is not met, its explanation is written at the end of the
tooltip, each line starting with `lead`. -/
def evaluate (s : Sheet) (excluded : Option ItemId) :
    (p : Prereq) → (tooltip : Option String) → (lead : String) → Bool × Option String
  | leaf r, tooltip, lead =>
    if r.isMet s excluded then (true, tooltip)
    else (false, tooltip.map (· ++ (lead ++ r.line s)))
  | list all whenTl members, tooltip, lead =>
    if !whenTl.isAny && !whenTl.accepts s.techLevelValue then (true, tooltip)
    else
      let (count, inner) :=
        evaluateMembers s excluded members (tooltip.map fun _ => "") (indent lead)
      if count == members.length || (!all && 0 < count) then (true, tooltip)
      else (false, tooltip.map fun t => t ++ lead ++ heading all ++ inner.getD "")
termination_by structural p => p

/-- Evaluates the members of a list: how many are met, and the tooltip afterwards. -/
def evaluateMembers (s : Sheet) (excluded : Option ItemId) :
    (ps : List Prereq) → (tooltip : Option String) → (lead : String) → Nat × Option String
  | [], tooltip, _ => (0, tooltip)
  | p :: rest, tooltip, lead =>
    let (met, tooltip) := evaluate s excluded p tooltip lead
    let (count, tooltip) := evaluateMembers s excluded rest tooltip lead
    ((if met then 1 else 0) + count, tooltip)
termination_by structural ps => ps

end

end Prereq

namespace PrereqList

/-- Evaluates a list of prerequisites. -/
def evaluate (s : Sheet) (excluded : Option ItemId) (l : PrereqList) (tooltip : Option String)
    (lead : String) : Bool × Option String :=
  l.toPrereq.evaluate s excluded tooltip lead

end PrereqList

end CharacterSheet
