import CharacterSheet.Proofs.DefaultChains
import CharacterSheet.Proofs.Recalculation

/-!
# Levels computed anew and levels read back

A default takes the levels of other skills in one of two ways: it computes them anew, with
the skills left out that are excluded, or it reads those that the last recalculation wrote.
This module compares the two on a recalculated sheet.

Both come to the same search, since what recalculation writes is no input of it. The levels
that were written are those with nothing excluded, and excluding skills never raises a
level; so reading back gives no less, and the same when nothing is excluded.
-/

namespace CharacterSheet

namespace SkillDefault

/-- A default gives no less when the skills that it names have no lower levels. -/
theorem levelFrom_le_levelFrom {d : SkillDefault} {s : Sheet} {m : Replacements}
    {requirePoints ruleOf20 : Bool} {e : ExclusionSet} {f g : Skill → Fixed}
    (h : ∀ k ∈ d.candidates s m requirePoints e, f k ≤ g k) :
    d.levelFrom f s m requirePoints ruleOf20 e ≤ d.levelFrom g s m requirePoints ruleOf20 e := by
  have hbest := foldl_max_le_foldl_max (le_refl Fixed.undefined) h
  unfold levelFrom
  cases d.base with
  | dodge | ofAttribute id => exact le_refl _
  | skill | parry | block => exact d.onSkill_le_onSkill s hbest

end SkillDefault

namespace Sheet

/-- **Computing levels anew never beats reading them back** on a recalculated sheet, and it
comes to the same when no skill is excluded. -/
theorem defaultLevel_recalculate (s : Sheet) (d : SkillDefault) (m : Replacements)
    (requirePoints ruleOf20 : Bool) (e : ExclusionSet) :
    (s.recalculate.defaultLevel d m requirePoints e ruleOf20).1 ≤
        d.fastLevel s.recalculate m requirePoints e ruleOf20 ∧
      (s.recalculate.defaultLevel d m requirePoints .empty ruleOf20).1 =
        d.fastLevel s.recalculate m requirePoints .empty ruleOf20 := by
  have hread {e : ExclusionSet} {k : Skill}
      (hk : k ∈ d.candidates s.recalculate m requirePoints e) :
      s.recalculate.levelExcluding .empty k = k.level.level :=
    congrArg Level.level (level_of_mem_recalculate (SkillDefault.mem_candidates.1 hk).1).symm
  rw [defaultLevel_eq, defaultLevel_eq, SkillDefault.fastLevel_eq_levelFrom,
    SkillDefault.fastLevel_eq_levelFrom]
  constructor
  · refine SkillDefault.levelFrom_le_levelFrom fun k hk => ?_
    calc s.recalculate.levelExcluding e k
        ≤ s.recalculate.levelExcluding .empty k :=
          levelExcluding_le_of_subset (fun id hid => absurd hid List.not_mem_nil) k
      _ = k.level.level := hread hk
  · exact le_antisymm
      (SkillDefault.levelFrom_le_levelFrom fun k hk => (hread hk).le)
      (SkillDefault.levelFrom_le_levelFrom fun k hk => (hread hk).ge)

end Sheet

end CharacterSheet
