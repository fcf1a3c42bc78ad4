import CharacterSheet.Sheet

/-!
# Levels of skills and spells

The level of a skill is the best of its trained level and the levels that its defaults
give, plus the bonuses to it. A default to a skill asks for the level of that skill,
which may have defaults of its own; the skills under way are kept in an exclusion set
and are not asked again, so that loops of defaults come to an end.

`Sheet.resolve` carries out this search. It threads the exclusion set through the
nested calls and has a budget for their depth: it has no answer if the budget does not
suffice. `Sheet.skillLevel` runs it with a budget that suffices always, one more than
the number of skills. `SkillDefault.fastLevel` takes the levels of other skills as they
were last computed instead.
-/

namespace CharacterSheet

/-- A computation over an exclusion set that may run out of its budget. -/
abbrev Resolution := StateT ExclusionSet Option

/-- The parry or block that comes with the level of a skill: half of the level, without
what stands after the point, plus three and a bonus. -/
def derivedDefense (level bonus : Fixed) : Fixed :=
  if level.isUndefined then level else (level / 2).trunc + 3 + bonus

namespace SkillDefault

/-- The name of a default as it is shown. -/
def fullName (d : SkillDefault) (s : Sheet) (m : Replacements) : String :=
  match d.base with
  | .ofAttribute id => s.attributeName id
  | .dodge => "Dodge"
  | base =>
    let specialization :=
      if d.specialization.isEmpty then "" else " (" ++ d.specializationWith m ++ ")"
    let defense :=
      match base with
      | .parry => " Parry"
      | .block => " Block"
      | _ => ""
    d.nameWith m ++ specialization ++ defense

/-- Adds the modifier of the default to a level. -/
def modified (d : SkillDefault) (level : Fixed) : Fixed :=
  if level.isUndefined then level else level + d.modifier

/-- The level that a default gives on the best level of the skills that it names. -/
def onSkill (d : SkillDefault) (s : Sheet) (best : Fixed) : Fixed :=
  d.modified
    (match d.base with
    | .parry => derivedDefense best s.parryBonus
    | .block => derivedDefense best s.blockBonus
    | _ => best)

/-- The level of a default to an attribute. -/
def attributeLevel (d : SkillDefault) (s : Sheet) (id : String) (ruleOf20 : Bool) : Fixed :=
  let level := s.attributeCurrent id
  if level.isUndefined then level
  else
    let level := if ruleOf20 then min level 20 else level
    let level := if s.settings.halfStatDefaults then (level / 2).trunc + 5 else level
    d.modified level

/-- The level of a default to dodge. -/
def dodgeLevel (d : SkillDefault) (s : Sheet) (ruleOf20 : Bool) : Fixed :=
  let level := s.dodge s.encumbrance
  d.modified (if ruleOf20 && 20 < level then 20 else level)

/-- The skills that a default names. -/
def candidates (d : SkillDefault) (s : Sheet) (m : Replacements) (requirePoints : Bool)
    (excluded : ExclusionSet) : List Skill :=
  s.skillsNamed (d.nameWith m) (d.specializationWith m) requirePoints excluded

/-- The level that a default gives, with the levels of other skills as they were last
computed. -/
def fastLevel (d : SkillDefault) (s : Sheet) (m : Replacements) (requirePoints : Bool)
    (excluded : ExclusionSet) (ruleOf20 : Bool) : Fixed :=
  match d.base with
  | .dodge => d.dodgeLevel s ruleOf20
  | .ofAttribute id => d.attributeLevel s id ruleOf20
  | .skill | .parry | .block =>
    d.onSkill s
      (((d.candidates s m requirePoints excluded).map (·.level.level)).foldl max .undefined)

/-- The level that a default gives, with the levels of other skills computed by
`levelOf`. -/
def resolveWith (levelOf : Skill → Resolution Fixed) (d : SkillDefault) (s : Sheet)
    (m : Replacements) (requirePoints ruleOf20 : Bool) : Resolution Fixed := do
  let excluded ← get
  match d.base with
  | .dodge | .ofAttribute _ => pure (d.fastLevel s m requirePoints excluded ruleOf20)
  | .skill | .parry | .block =>
    let best ← (d.candidates s m requirePoints excluded).foldlM
      (fun best k => do
        let level ← levelOf k
        pure (if best < level then level else best))
      .undefined
    pure (d.onSkill s best)

end SkillDefault

namespace Sheet

/-- A level relative to an attribute, unless one of them is undefined. -/
def relativeTo (level score : Fixed) : Fixed :=
  if level.isUndefined || score.isUndefined then .undefined else level - score

/-- The level that points give. -/
def trainedLevel (difficulty : Difficulty) (points score : Fixed) : Fixed :=
  match difficulty.relativeLevel points with
  | some relative => if score.isUndefined then .undefined else score + relative
  | none => .undefined

/-- A level with bonuses added to it, unless it is undefined. -/
def withBonuses (s : Sheet) (bonuses : List Bonus) (level score : Fixed) : Level :=
  let (sum, tooltip) := if level.isUndefined then (0, none) else s.bonusTotal bonuses (some "")
  let level := if level.isUndefined then level else level + sum
  { level, relative := relativeTo level score, tooltip := tooltip.getD "" }

/-- The bonuses to a skill on the sheet. -/
def bonusesToSkill (s : Sheet) (k : Skill) : List Bonus :=
  s.bonuses.skillBonuses k.displayName k.displaySpecialization k.tags

/-- The bonuses to a spell on the sheet. -/
def bonusesToSpell (s : Sheet) (p : Spell) : List Bonus :=
  s.bonuses.spellBonuses p.displayName p.displayCollege p.displayPowerSource p.tags

/-- Computes the level of a skill in at most `depth` nested calls. The skill is excluded
while its defaults are tried. -/
def resolve (s : Sheet) : (depth : Nat) → Skill → Resolution Level
  | 0, _ => fun _ => none
  | depth + 1, k => do
    let before ← get
    set (before.insert k.id)
    let score := s.attributeCurrent k.difficulty.attributeId
    let level ← k.defaults.foldlM
      (fun level d => do
        let candidate ← d.resolveWith (fun other => return (← resolve s depth other).level) s
          k.replacements true s.settings.ruleOf20
        pure (if level < candidate then candidate else level))
      (trainedLevel k.difficulty k.points score)
    unless before.contains k.id do
      modify (·.remove k.id)
    pure (s.withBonuses (s.bonusesToSkill k) level score)

/-- A number of nested calls that computing a level never exceeds. -/
def depthBound (s : Sheet) : Nat := s.skills.length + 1

/-- The level of a skill, and the exclusion set afterwards. -/
def skillLevel (s : Sheet) (k : Skill) (excluded : ExclusionSet) : Level × ExclusionSet :=
  ((s.resolve s.depthBound k).run excluded).getD ({}, excluded)

/-- The level that a default gives, with the levels of other skills computed anew, and
the exclusion set afterwards. -/
def defaultLevel (s : Sheet) (d : SkillDefault) (m : Replacements) (requirePoints : Bool)
    (excluded : ExclusionSet) (ruleOf20 : Bool) : Fixed × ExclusionSet :=
  ((d.resolveWith (fun k => return (← s.resolve s.depthBound k).level) s m requirePoints
    ruleOf20).run excluded).getD (.undefined, excluded)

/-- The level of a spell. -/
def spellLevel (s : Sheet) (p : Spell) : Level :=
  let score := s.attributeCurrent p.difficulty.attributeId
  s.withBonuses (s.bonusesToSpell p) (trainedLevel p.difficulty p.points score) score

end Sheet

end CharacterSheet
