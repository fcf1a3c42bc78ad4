import CharacterSheet.Sheet.Levels
import CharacterSheet.Sheet.Prerequisites

/-!
# Recalculation

`Sheet.recalculate` brings the derived state of a sheet up to date in one pass: first
the table of bonuses, then the levels of skills and spells on top of it, and last the
verdicts on prerequisites, which look at both.
-/

namespace CharacterSheet

/-- Reasons why prerequisites are not met, by the ids of the pieces of equipment that they
are for. -/
abbrev Reasons := ItemId → Option String

namespace Reasons

def empty : Reasons := fun _ => none

/-- Records a reason, or that there is none, in place of what was recorded under the id. -/
def record (r : Reasons) (id : ItemId) (reason : Option String) : Reasons :=
  fun other => if other = id then reason else r other

end Reasons

namespace Equipment

mutual

/-- Writes the recorded reasons to a piece and everything in it, containers before their
contents. A reason is written once: a second piece with its id gets none. Also gives what
is still recorded. -/
def writeReasons (r : Reasons) : Equipment → Equipment × Reasons
  | ⟨gear, children⟩ =>
    let (children, r') := writeReasonsAll (r.record gear.id none) children
    (⟨{ gear with unsatisfiedReason := r gear.id }, children⟩, r')
termination_by structural e => e

def writeReasonsAll (r : Reasons) : List Equipment → List Equipment × Reasons
  | [] => ([], r)
  | e :: rest =>
    let (e, r) := writeReasons r e
    let (rest, r) := writeReasonsAll r rest
    (e :: rest, r)
termination_by structural es => es

end

end Equipment

namespace Sheet

/-! ### Bonuses -/

/-- The bonuses that an item grants at a level, with values for their tokens. -/
def bonusesOf (owner : ItemId) (features : List Feature) (level : Fixed) (m : Replacements) :
    List Bonus :=
  features.map fun f => .ofFeature owner (HasPlaceholders.substitute m f) level

/-- The bonuses that the items of a sheet grant: traits that are not disabled at their
level, skills, and active equipment, of which the last comes first. -/
def grantedBonuses (s : Sheet) : List Bonus :=
  (s.traits.filter (!·.disabled)).flatMap
      (fun t => bonusesOf t.id t.features t.currentLevel t.replacements) ++
    s.skills.flatMap (fun k => bonusesOf k.id k.features 0 k.replacements) ++
    (Equipment.activeAll s.equipment).flatMap
      (fun e => bonusesOf e.id e.features 0 e.replacements)

/-- Files the bonuses that the items grant. -/
def gatherBonuses (s : Sheet) : Sheet := { s with bonuses := .ofList s.grantedBonuses }

/-! ### Levels -/

/-- Computes the level of every skill. -/
def updateSkills (s : Sheet) : Sheet :=
  { s with skills := s.skills.map fun k => { k with level := (s.skillLevel k .empty).1 } }

/-- Computes the level of every spell. -/
def updateSpells (s : Sheet) : Sheet :=
  { s with spells := s.spells.map fun p => { p with level := s.spellLevel p } }

/-! ### Prerequisites -/

/-- What the first line of an explanation starts with. -/
def explanationLead : String := "\n• "

/-- Why the prerequisites of an item are not met, if they are not. -/
def unsatisfiedReason (s : Sheet) (prereqs : Option PrereqList) (id : ItemId) : Option String :=
  prereqs.bind fun l =>
    match l.evaluate s (some id) (some "") explanationLead with
    | (true, _) => none
    | (false, tooltip) => tooltip

/-- The reasons of all pieces of equipment; of several with one id the last counts. -/
def equipmentReasons (s : Sheet) : Reasons :=
  s.pieces.foldl (fun r e => r.record e.id (s.unsatisfiedReason e.prereqs e.id)) .empty

/-- Evaluates the prerequisites of every item. -/
def updateReasons (s : Sheet) : Sheet :=
  { s with
    traits := s.traits.map fun t =>
      { t with unsatisfiedReason := s.unsatisfiedReason t.prereqs t.id }
    skills := s.skills.map fun k =>
      { k with unsatisfiedReason := s.unsatisfiedReason k.prereqs k.id }
    spells := s.spells.map fun p =>
      { p with unsatisfiedReason := s.unsatisfiedReason p.prereqs p.id }
    equipment := (Equipment.writeReasonsAll s.equipmentReasons s.equipment).1 }

/-- Brings the derived state up to date. -/
def recalculate (s : Sheet) : Sheet :=
  s.gatherBonuses.updateSkills.updateSpells.updateReasons

end Sheet

end CharacterSheet
