import Mathlib.Logic.Relation
import Mathlib.Order.WellFounded
import CharacterSheet.Proofs.FastLevels
import CharacterSheet.Proofs.GraphWalk

/-!
# Levels without loops of defaults

If the graph of defaults reports no loop, the levels that recalculation writes solve the
equations of the defaults, `Sheet.levels_recalculate_of_cycles_eq_nil`: each is what the skill's
training and its defaults give on the levels that were written. Excluding the skills under way
makes no difference then.

The graph has an edge for every step that the search for a level can take, since it does not
ask for points. A search that comes from a skill through such edges never comes back to it, and
so what is excluded on the way is never named again.
-/

namespace CharacterSheet

namespace DefaultGraph

/-! ### The edges of a sheet's graph -/

/-- The edges of a skill lead to the skills that its defaults to skills name. -/
theorem mem_edges_addSkill {s : Sheet} {g : DefaultGraph} {k : Skill} {e : ItemId × ItemId} :
    e ∈ (addSkill s g k).edges ↔
      e ∈ g.edges ∨ ∃ d ∈ k.defaults, d.isSkillBased = true ∧
        ∃ o ∈ d.candidates s k.replacements false .empty, e = (k.id, o.id) := by
  have htarget (g : DefaultGraph) (o : Skill) :
      e ∈ (g.addEdge k.id o.id).edges ↔ e ∈ g.edges ∨ e = (k.id, o.id) := by
    rw [mem_edges_addEdge, or_comm]
  have hdefault (g : DefaultGraph) (d : SkillDefault) :=
    foldl_iff (e ∈ ·.edges) (fun g (o : Skill) => g.addEdge k.id o.id) htarget
      (d.candidates s k.replacements false .empty) g
  have hdefaults := foldl_iff (e ∈ ·.edges) _ hdefault
    (k.defaults.filter SkillDefault.isSkillBased) (g.addNode k.id)
  simp only [edges_addNode, List.mem_filter, and_assoc] at hdefaults
  exact hdefaults

/-- **The edges of the graph of a sheet** are the steps from a skill to the skills that its
defaults to skills name, with or without points. -/
theorem mem_edges_ofSheet {s : Sheet} {e : ItemId × ItemId} :
    e ∈ (ofSheet s).edges ↔
      ∃ k ∈ s.skills, ∃ d ∈ k.defaults, d.isSkillBased = true ∧
        ∃ o ∈ d.candidates s k.replacements false .empty, e = (k.id, o.id) := by
  have hedges := foldl_iff (e ∈ ·.edges) (addSkill s) (fun _ _ => mem_edges_addSkill) s.skills empty
  exact hedges.trans (or_iff_right List.not_mem_nil)

end DefaultGraph

namespace SkillDefault

/-! ### Defaults and what is excluded -/

/-- Skills that are excluded are left out of the candidates. -/
theorem candidates_eq_filter (d : SkillDefault) (s : Sheet) (m : Replacements)
    (requirePoints : Bool) (e : ExclusionSet) :
    d.candidates s m requirePoints e =
      (d.candidates s m requirePoints .empty).filter fun o => !e.contains o.id := by
  rw [candidates, candidates, Sheet.skillsNamed, Sheet.skillsNamed, List.filter_filter]
  refine List.filter_congr fun o _ => ?_
  have hempty : ExclusionSet.empty.contains o.id = false := rfl
  rw [hempty]
  cases e.contains o.id <;> simp

/-- A default to an attribute or to dodge gives the same whatever is excluded. -/
theorem levelFrom_of_not_isSkillBased {d : SkillDefault} (h : d.isSkillBased = false)
    (f g : Skill → Fixed) (s : Sheet) (m : Replacements) (requirePoints ruleOf20 : Bool)
    (e e' : ExclusionSet) :
    d.levelFrom f s m requirePoints ruleOf20 e = d.levelFrom g s m requirePoints ruleOf20 e' := by
  unfold levelFrom fastLevel
  unfold isSkillBased at h
  cases hbase : d.base with
  | dodge | ofAttribute id => rfl
  | skill | parry | block => simp [hbase, DefaultBase.isSkillBased] at h

theorem levelFrom_congr {d : SkillDefault} {s : Sheet} {m : Replacements}
    {requirePoints ruleOf20 : Bool} {e : ExclusionSet} {f g : Skill → Fixed}
    (h : ∀ k ∈ d.candidates s m requirePoints e, f k = g k) :
    d.levelFrom f s m requirePoints ruleOf20 e = d.levelFrom g s m requirePoints ruleOf20 e :=
  le_antisymm (levelFrom_le_levelFrom fun k hk => (h k hk).le)
    (levelFrom_le_levelFrom fun k hk => (h k hk).ge)

end SkillDefault

namespace Sheet

open Relation (TransGen ReflTransGen)

variable {s : Sheet}

/-! ### The search and the graph -/

/-- The graph of defaults has an edge from the second skill to the first. -/
def IsDefaultOf (s : Sheet) (b a : ItemId) : Prop := (a, b) ∈ (DefaultGraph.ofSheet s).edges

/-- What a default of a skill names in a search, with points, is a default of the skill. -/
theorem isDefaultOf_of_mem_candidates {k o : Skill} {d : SkillDefault} {e : ExclusionSet}
    {requirePoints : Bool} (hk : k ∈ s.skills) (hd : d ∈ k.defaults) (hbase : d.isSkillBased = true)
    (ho : o ∈ d.candidates s k.replacements requirePoints e) : s.IsDefaultOf o.id k.id := by
  obtain ⟨hmem, hname, -, -, hspecialization⟩ := SkillDefault.mem_candidates.1 ho
  have hcandidate : o ∈ d.candidates s k.replacements false .empty :=
    SkillDefault.mem_candidates.2
      ⟨hmem, hname, List.not_mem_nil, fun h => absurd h Bool.false_ne_true, hspecialization⟩
  exact DefaultGraph.mem_edges_ofSheet.2 ⟨k, hk, d, hd, hbase, o, hcandidate, rfl⟩

/-- If no default of a skill is excluded, the candidates are those with nothing excluded. -/
theorem candidates_of_free {k : Skill} {d : SkillDefault} {e : ExclusionSet} (hk : k ∈ s.skills)
    (hd : d ∈ k.defaults) (hbase : d.isSkillBased = true)
    (hfree : ∀ x, s.IsDefaultOf x k.id → x ∉ e.ids) :
    d.candidates s k.replacements true e = d.candidates s k.replacements true .empty := by
  rw [SkillDefault.candidates_eq_filter, List.filter_eq_self]
  intro o ho
  rw [Bool.not_eq_true', ExclusionSet.contains_eq_false]
  exact hfree o.id (isDefaultOf_of_mem_candidates hk hd hbase ho)

/-- **Levels depend on the exclusions behind a skill only.** If defaults are well-founded and no
skill that the search can come to is excluded, the level is the same as with nothing
excluded. -/
theorem levelExcluding_of_free (hwf : WellFounded s.IsDefaultOf) {k : Skill} (hk : k ∈ s.skills)
    {e : ExclusionSet} (hfree : ∀ x, TransGen s.IsDefaultOf x k.id → x ∉ e.ids) :
    s.levelExcluding e k =
      s.withSkillBonus k (s.bestFrom (s.levelExcluding .empty) k .empty) := by
  induction hid : k.id using hwf.induction generalizing k e with
  | h id ih =>
      subst hid
      -- The search never comes back to the skill, so that excluding it cuts nothing.
      have hfree' : ∀ x, TransGen s.IsDefaultOf x k.id → x ∉ (e.insert k.id).ids := by
        intro x hx hin
        rcases ExclusionSet.mem_insert.1 hin with rfl | hin
        · exact hwf.transGen.irrefl.irrefl _ hx
        · exact hfree x hx hin
      have hlevel {o : Skill} (ho : o ∈ s.skills) (hdefault : s.IsDefaultOf o.id k.id) :
          s.levelExcluding (e.insert k.id) o = s.levelExcluding .empty o := by
        rw [ih o.id hdefault ho (fun x hx => hfree' x (hx.tail hdefault)) rfl,
          ih o.id hdefault ho (fun x _ => List.not_mem_nil) rfl]
      rw [levelExcluding_eq]
      refine congrArg (s.withSkillBonus k) (congrArg (List.foldl max _ ·)
        (List.map_congr_left fun d hd => ?_))
      by_cases hbase : d.isSkillBased = true
      · rw [SkillDefault.levelFrom_of_isSkillBased hbase,
          SkillDefault.levelFrom_of_isSkillBased hbase,
          candidates_of_free hk hd hbase fun x hx => hfree' x (.single hx)]
        refine congrArg (fun levels => d.onSkill s (levels.foldl max .undefined))
          (List.map_congr_left fun o ho => ?_)
        exact hlevel (SkillDefault.mem_candidates.1 ho).1
          (isDefaultOf_of_mem_candidates hk hd hbase ho)
      · rw [Bool.not_eq_true] at hbase
        exact SkillDefault.levelFrom_of_not_isSkillBased hbase _ _ _ _ _ _ _ _

/-! ### Chains of defaults -/

theorem lastSkill_mem_skills {k : Skill} {links : List ChainLink} (hk : k ∈ s.skills)
    (hlinked : s.Linked k links) : lastSkill k links ∈ s.skills := by
  induction links generalizing k with
  | nil => exact hk
  | cons l rest ih => exact ih hlinked.1.mem_skills hlinked.2

/-- The search comes from every skill on a chain to the last one. -/
theorem reflTransGen_lastSkill {k : Skill} {links : List ChainLink} (hk : k ∈ s.skills)
    (hlinked : s.Linked k links) :
    ∀ x ∈ k.id :: links.map (·.skill.id),
      ReflTransGen s.IsDefaultOf (lastSkill k links).id x := by
  induction links generalizing k with
  | nil =>
      intro x hx
      rw [List.mem_singleton.1 hx]
      exact .refl
  | cons l rest ih =>
      obtain ⟨hleads, hrest⟩ := hlinked
      have hbehind := ih hleads.mem_skills hrest
      have hstep : s.IsDefaultOf l.skill.id k.id := by
        obtain ⟨hd, hbase, hcandidate⟩ :=
          (leadsTo_iff (e := .empty)).1 ⟨hleads, List.not_mem_nil⟩
        exact isDefaultOf_of_mem_candidates hk hd hbase hcandidate
      intro x hx
      rcases List.mem_cons.1 hx with rfl | hx
      · exact (hbehind l.skill.id List.mem_cons_self).tail hstep
      · exact hbehind x hx

/-- Excluding the skills under way cuts nothing: the last skill of a chain of defaults leads to
the same skills whether or not skills on the chain are excluded. -/
def CutsNothing (s : Sheet) : Prop :=
  ∀ k ∈ s.skills, ∀ links, s.Linked k links →
    ∀ d ∈ (lastSkill k links).defaults, d.isSkillBased = true →
      ∀ e : ExclusionSet, e.ids ⊆ k.id :: links.map (·.skill.id) →
        d.candidates s (lastSkill k links).replacements true e =
          d.candidates s (lastSkill k links).replacements true .empty

theorem cutsNothing_of_wellFounded (hwf : WellFounded s.IsDefaultOf) : s.CutsNothing := by
  intro k hk links hlinked d hd hbase e he
  refine candidates_of_free (lastSkill_mem_skills hk hlinked) hd hbase fun x hx hin => ?_
  -- A default on the chain would close a loop.
  have hback := reflTransGen_lastSkill hk hlinked x (he hin)
  exact hwf.transGen.irrefl.irrefl x (TransGen.head' hx hback)

/-! ### Levels that were written -/

/-- The best of the trained level of a skill and of what its defaults give on the levels that
are written on the sheet. -/
def bestOfWritten (s : Sheet) (k : Skill) : Fixed :=
  (k.defaults.map fun d =>
      d.fastLevel s k.replacements true .empty s.settings.ruleOf20).foldl max
    (trainedLevel k.difficulty k.points (s.scoreOf k))

/-- The levels that are written on a sheet solve the equations of the defaults: each is the best
of training and defaults, with the bonuses to the skill unless it is undefined. -/
def LevelsSolveDefaults (s : Sheet) : Prop :=
  ∀ k ∈ s.skills, k.level.level = s.withSkillBonus k (s.bestOfWritten k)

/-- Recalculated levels are what the search gives with nothing excluded. -/
theorem levelExcluding_recalculate (s : Sheet) {k : Skill} (hk : k ∈ s.recalculate.skills) :
    s.recalculate.levelExcluding .empty k = k.level.level :=
  congrArg Level.level (level_of_mem_recalculate hk).symm

theorem bestFrom_recalculate (s : Sheet) (k : Skill) :
    s.recalculate.bestFrom (s.recalculate.levelExcluding .empty) k .empty =
      s.recalculate.bestOfWritten k := by
  refine congrArg (List.foldl max _ ·) (List.map_congr_left fun d _ => ?_)
  rw [SkillDefault.fastLevel_eq_levelFrom]
  exact SkillDefault.levelFrom_congr fun o ho =>
    levelExcluding_recalculate s (SkillDefault.mem_candidates.1 ho).1

/-- **Without loops, recalculation solves the equations of the defaults**, and what the search
excludes on its way cuts nothing. -/
theorem levels_recalculate_of_cycles_eq_nil (s : Sheet)
    (h : (DefaultGraph.ofSheet s).cycles = []) :
    s.recalculate.LevelsSolveDefaults ∧ s.recalculate.CutsNothing := by
  have hwf : WellFounded s.recalculate.IsDefaultOf := by
    rw [← DefaultGraph.ofSheet_recalculate] at h
    exact DefaultGraph.wellFounded_of_cycles_eq_nil h
  refine ⟨fun k hk => ?_, cutsNothing_of_wellFounded hwf⟩
  calc k.level.level
      = s.recalculate.levelExcluding .empty k := (levelExcluding_recalculate s hk).symm
    _ = s.recalculate.withSkillBonus k
          (s.recalculate.bestFrom (s.recalculate.levelExcluding .empty) k .empty) :=
        levelExcluding_of_free hwf hk fun x _ => List.not_mem_nil
    _ = s.recalculate.withSkillBonus k (s.recalculate.bestOfWritten k) := by
        rw [bestFrom_recalculate]

/-- A sheet with a chain of three skills: a parry at the knife, and the knife at the sword. -/
def bladeSheet : Sheet where
  attributes := KeyMap.empty.insert "dx" { name := "Dexterity", base := 12 }
  skills := [
    { id := ⟨1⟩, name := "Main-Gauche", difficulty := ⟨"dx", .average⟩
      defaults := [{ base := .parry, name := "Knife", modifier := -1 }] },
    { id := ⟨2⟩, name := "Knife", difficulty := ⟨"dx", .easy⟩, points := 1
      defaults := [.toSkill "Shortsword" (-3), .toId "dx" (-4)] },
    { id := ⟨3⟩, name := "Shortsword", difficulty := ⟨"dx", .average⟩, points := 20 }]

theorem bladeSheet_levels :
    (DefaultGraph.ofSheet bladeSheet).cycles = [] ∧
      bladeSheet.recalculate.skills.map (·.level.level) = [9, 14, 17] ∧
      bladeSheet.recalculate.LevelsSolveDefaults ∧ bladeSheet.recalculate.CutsNothing :=
  ⟨by decide, by decide, levels_recalculate_of_cycles_eq_nil bladeSheet (by decide)⟩

end Sheet

end CharacterSheet
