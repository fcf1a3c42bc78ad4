import CharacterSheet.Proofs.LetterCase
import CharacterSheet.Sheet.Levels
import CharacterSheet.Sheet.Prerequisites

/-!
# Skills by name

A default names a skill, and so do the requirements and the bonuses whose criteria ask for one name.
Defaults look skills up apart from the case of the letters `A` to `Z`, criteria compare lowercase
forms. So what a default finds is what the criteria select, without the skills whose names differ in
other capitals: `Sheet.skillsNamed_agrees` says so and when these are none.
-/

namespace CharacterSheet

open Text (AsciiCapitals)

namespace StringCriteria

/-- The condition to be a given text, or no condition if that is empty. -/
def isUnlessEmpty (qualifier : String) : StringCriteria :=
  if qualifier.isEmpty then .any else .is qualifier

theorem accepts_isUnlessEmpty (qualifier value : String) :
    (isUnlessEmpty qualifier).accepts value = (qualifier.isEmpty || (is qualifier).accepts value) := by
  unfold isUnlessEmpty
  cases qualifier.isEmpty <;> rfl

end StringCriteria

namespace Skill

/-- Whether criteria for a name, and for a specialization unless it is empty, select the skill. -/
def isNamed (name specialization : String) (k : Skill) : Bool :=
  (StringCriteria.is name).accepts k.displayName &&
    (StringCriteria.isUnlessEmpty specialization).accepts k.displaySpecialization

/-- Whether the skill has a name, and a specialization unless that is empty, letter by letter but for
the case of `A` to `Z`. -/
def isSpelled (name specialization : String) (k : Skill) : Bool :=
  Text.equalsIgnoringCase k.displayName name &&
    (specialization.isEmpty || Text.equalsIgnoringCase k.displaySpecialization specialization)

/-- What is spelled like a name is the name to criteria. -/
theorem isNamed_of_isSpelled {name specialization : String} {k : Skill}
    (h : k.isSpelled name specialization = true) : k.isNamed name specialization = true := by
  simp only [isSpelled, Bool.and_eq_true, Bool.or_eq_true, Text.equalsIgnoringCase_iff] at h
  simp only [isNamed, StringCriteria.accepts_isUnlessEmpty, Bool.and_eq_true, Bool.or_eq_true,
    StringCriteria.accepts_is_iff]
  exact ⟨Text.lowercase_eq_of_foldCase_eq h.1, h.2.imp_right Text.lowercase_eq_of_foldCase_eq⟩

/-- Without capitals but `A` to `Z` the converse holds. -/
theorem isSpelled_of_isNamed {name specialization : String} {k : Skill}
    (hname : AsciiCapitals name) (hspecialization : AsciiCapitals specialization)
    (hk : AsciiCapitals k.displayName ∧ AsciiCapitals k.displaySpecialization)
    (h : k.isNamed name specialization = true) : k.isSpelled name specialization = true := by
  simp only [isNamed, StringCriteria.accepts_isUnlessEmpty, Bool.and_eq_true, Bool.or_eq_true,
    StringCriteria.accepts_is_iff] at h
  simp only [isSpelled, Bool.and_eq_true, Bool.or_eq_true, Text.equalsIgnoringCase_iff,
    Text.foldCase_eq_iff_of_asciiCapitals hk.1 hname,
    Text.foldCase_eq_iff_of_asciiCapitals hk.2 hspecialization]
  exact h

end Skill

namespace Sheet

theorem skillsNamed_eq_filter_isSpelled (s : Sheet) (name specialization : String) :
    s.skillsNamed name specialization false .empty =
      s.skills.filter (·.isSpelled name specialization) := by
  refine List.filter_congr fun k _ => ?_
  have hfree : ExclusionSet.empty.contains k.id = false := rfl
  rw [Skill.isSpelled, hfree, Bool.not_false, Bool.and_true, Bool.true_or, Bool.and_true]

/-- **Which skills a name means.** Looking a name up finds, in order, those of the skills selected
by criteria for the name that are spelled like it but for the case of `A` to `Z`; these are all
selected skills exactly if none differs from the name in other capitals, as when there are no other
capitals. A requirement and a bonus with such criteria pick the selected skills. -/
theorem skillsNamed_agrees (s : Sheet) (name specialization : String) :
    s.skillsNamed name specialization false .empty =
      (s.skills.filter (·.isNamed name specialization)).filter (·.isSpelled name specialization) ∧
    (s.skillsNamed name specialization false .empty =
        s.skills.filter (·.isNamed name specialization) ↔
      ∀ k ∈ s.skills, k.isNamed name specialization = true →
        k.isSpelled name specialization = true) ∧
    (AsciiCapitals name → AsciiCapitals specialization →
      (∀ k ∈ s.skills, AsciiCapitals k.displayName ∧ AsciiCapitals k.displaySpecialization) →
      s.skillsNamed name specialization false .empty =
        s.skills.filter (·.isNamed name specialization)) ∧
    (∀ (r : SkillRequirement) (excluded : Option ItemId), r.name = .is name →
      r.specialization = .isUnlessEmpty specialization →
      r.holds s excluded = (s.skills.filter (·.isNamed name specialization)).any
        fun k => some k.id != excluded && r.level.accepts k.level.level) ∧
    ∀ b : SkillBonus, b.name = .is name → b.specialization = .isUnlessEmpty specialization →
      b.tags = .any → s.skills.filter (·.isNamed name specialization) =
        s.skills.filter fun k => b.reaches k.displayName k.displaySpecialization k.tags := by
  have hfound : s.skillsNamed name specialization false .empty =
      (s.skills.filter (·.isNamed name specialization)).filter
        (·.isSpelled name specialization) := by
    rw [skillsNamed_eq_filter_isSpelled, List.filter_filter]
    refine List.filter_congr fun k _ => ?_
    cases hspelled : k.isSpelled name specialization with
    | false => rfl
    | true => rw [Skill.isNamed_of_isSpelled hspelled]; rfl
  have hall : s.skillsNamed name specialization false .empty =
        s.skills.filter (·.isNamed name specialization) ↔
      ∀ k ∈ s.skills, k.isNamed name specialization = true →
        k.isSpelled name specialization = true := by
    rw [hfound, List.filter_eq_self]
    simp only [List.mem_filter, and_imp]
  refine ⟨hfound, hall, fun hname hspecialization hskills => ?_, fun r excluded hr hr' => ?_,
    fun b hb hb' htags => ?_⟩
  · exact hall.2 fun k hk => Skill.isSpelled_of_isNamed hname hspecialization (hskills k hk)
  · have hand : ∀ a b c d : Bool, (a && b && c && d) = (b && c && (a && d)) := by decide
    rw [SkillRequirement.holds, List.any_filter, hr, hr']
    exact congrArg s.skills.any (funext fun k => hand _ _ _ _)
  · refine List.filter_congr fun k _ => ?_
    have hany : StringCriteria.any.acceptsList k.tags = true := by
      unfold StringCriteria.acceptsList
      cases k.tags <;> rfl
    rw [SkillBonus.reaches, hb, hb', htags, hany, Bool.and_true, Skill.isNamed]

/-- A sheet with a skill whose name starts with a capital beyond `Z`. -/
def fencerSheet : Sheet where
  skills := [{ id := ⟨1⟩, name := "Épée", difficulty := ⟨"dx", .average⟩ }]

/-- Criteria for the name in small letters select the skill, a default to it does not find it. -/
theorem fencerSheet_skillsNamed :
    fencerSheet.skillsNamed "épée" "" false .empty = [] ∧
      fencerSheet.skills.filter (·.isNamed "épée" "") = fencerSheet.skills := by
  decide +kernel

end Sheet

end CharacterSheet
