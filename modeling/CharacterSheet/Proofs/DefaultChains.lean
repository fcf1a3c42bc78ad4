import CharacterSheet.Proofs.Resolution

/-!
# Chains of defaults

A skill may default to a second one, the second to a third, and so on; the last skill of
such a chain is used at its trained level, or by its default to an attribute or to dodge.
This module proves that the search for the level of a skill finds the best chain without
repetitions.

A chain whose first skill is `k` and that avoids the set `e` consists of a default of `k`
and a chain that avoids `k` as well. The upper bound follows the links of the chain with
the excluded set growing, the attained value follows the measure of the search.
-/

namespace CharacterSheet

/-- A step of a chain: a default of the skill before, and a skill that it names. -/
structure ChainLink where
  via : SkillDefault
  skill : Skill

namespace Sheet

/-- A default of `k` to a skill, or to its parry or block, names a skill of the sheet that
has points. -/
structure LeadsTo (s : Sheet) (k : Skill) (l : ChainLink) : Prop where
  mem_defaults : l.via ∈ k.defaults
  isSkillBased : l.via.isSkillBased = true
  mem_skills : l.skill ∈ s.skills
  hasPoints : 0 < l.skill.points
  name : Text.equalsIgnoringCase l.skill.displayName (l.via.nameWith k.replacements) = true
  specialization : l.via.specializationWith k.replacements = "" ∨
    Text.equalsIgnoringCase l.skill.displaySpecialization
      (l.via.specializationWith k.replacements) = true

/-- Each link starts from the skill of the link before it, the first from `k`. -/
def Linked (s : Sheet) : Skill → List ChainLink → Prop
  | _, [] => True
  | k, l :: rest => s.LeadsTo k l ∧ s.Linked l.skill rest

/-- The skill at the end of a chain. -/
def lastSkill : Skill → List ChainLink → Skill
  | k, [] => k
  | _, l :: rest => lastSkill l.skill rest

/-- What the last skill of a chain is used at: its trained level, or what one of its defaults
to an attribute or to dodge gives. -/
inductive StartsAt (s : Sheet) (k : Skill) : Fixed → Prop
  | trained : s.StartsAt k (trainedLevel k.difficulty k.points (s.scoreOf k))
  | ofAttribute {d : SkillDefault} {id : String} (hd : d ∈ k.defaults)
      (hbase : d.base = .ofAttribute id) :
      s.StartsAt k (d.attributeLevel s id s.settings.ruleOf20)
  | dodge {d : SkillDefault} (hd : d ∈ k.defaults) (hbase : d.base = .dodge) :
      s.StartsAt k (d.dodgeLevel s s.settings.ruleOf20)

/-- The sum of the bonuses to a skill. -/
def skillBonus (s : Sheet) (k : Skill) : Fixed := Fixed.sum ((s.bonusesToSkill k).map Bonus.amount)

/-- A level of a skill with the bonuses to the skill; what is undefined stays so. -/
def withSkillBonus (s : Sheet) (k : Skill) (level : Fixed) : Fixed :=
  if level.isUndefined then level else level + s.skillBonus k

/-- What a default makes of the level of the skill that it leads to: the level as it is, or for
parry and block half of it without what stands after the point, plus three and the bonus; then the
modifier is added. What is undefined stays so at both steps. -/
def throughDefault (s : Sheet) (d : SkillDefault) (level : Fixed) : Fixed :=
  let defense (bonus : Fixed) : Fixed :=
    if level = .undefined then .undefined else (level / 2).trunc + 3 + bonus
  let used :=
    match d.base with
    | .parry => defense s.parryBonus
    | .block => defense s.blockBonus
    | _ => level
  if used = .undefined then .undefined else used + d.modifier

/-- The level that a chain gives its first skill: the start with the bonuses to the last
skill, and from there back what each default makes of it, with the bonuses to its skill. -/
def chainValue (s : Sheet) (start : Fixed) : Skill → List ChainLink → Fixed
  | k, [] => s.withSkillBonus k start
  | k, l :: rest => s.withSkillBonus k (s.throughDefault l.via (s.chainValue start l.skill rest))

end Sheet

/-- A chain of defaults from a skill that meets no skill twice and, behind the first skill,
none that is excluded. -/
structure DefaultChain (s : Sheet) (k : Skill) (e : ExclusionSet) where
  links : List ChainLink
  start : Fixed
  linked : s.Linked k links
  distinct : (k.id :: links.map (·.skill.id)).Nodup
  unexcluded : ∀ l ∈ links, l.skill.id ∉ e.ids
  starts : s.StartsAt (Sheet.lastSkill k links) start

namespace DefaultChain

variable {s : Sheet} {k : Skill} {e : ExclusionSet}

/-- The level that the chain gives. -/
def value (c : DefaultChain s k e) : Fixed := s.chainValue c.start k c.links

/-- The chain without links. -/
def single {start : Fixed} (h : s.StartsAt k start) : DefaultChain s k e where
  links := []
  start := start
  linked := trivial
  distinct := List.nodup_singleton _
  unexcluded _ hl := absurd hl List.not_mem_nil
  starts := h

/-- A chain behind a link. -/
def cons (l : ChainLink) (h : s.LeadsTo k l) (hl : l.skill.id ∉ (e.insert k.id).ids)
    (c : DefaultChain s l.skill (e.insert k.id)) : DefaultChain s k e where
  links := l :: c.links
  start := c.start
  linked := ⟨h, c.linked⟩
  distinct := by
    refine List.nodup_cons.2 ⟨fun hk => ?_, c.distinct⟩
    rcases List.mem_cons.1 hk with hk | hk
    · exact hl (ExclusionSet.mem_insert.2 (.inl hk.symm))
    · obtain ⟨l', hl', heq⟩ := List.mem_map.1 hk
      exact c.unexcluded l' hl' (ExclusionSet.mem_insert.2 (.inl heq))
  unexcluded l' hl' := by
    intro he
    have hin : l'.skill.id ∈ (e.insert k.id).ids := ExclusionSet.mem_insert.2 (.inr he)
    rcases List.mem_cons.1 hl' with rfl | hl'
    · exact hl hin
    · exact c.unexcluded l' hl' hin
  starts := c.starts

/-- What is behind the first link of a chain avoids the first skill as well. -/
theorem tail_unexcluded {l : ChainLink} {rest : List ChainLink}
    (hdistinct : (k.id :: (l :: rest).map (·.skill.id)).Nodup)
    (hunexcluded : ∀ l' ∈ l :: rest, l'.skill.id ∉ e.ids) :
    ∀ l' ∈ l :: rest, l'.skill.id ∉ (e.insert k.id).ids := by
  intro l' hl' h
  rcases ExclusionSet.mem_insert.1 h with hk | he
  · exact (List.nodup_cons.1 hdistinct).1 (hk ▸ List.mem_map_of_mem hl')
  · exact hunexcluded l' hl' he

end DefaultChain

namespace Sheet

variable {s : Sheet}

/-! ### Steps and the order -/

theorem withSkillBonus_le_withSkillBonus {k : Skill} {a b : Fixed} (h : a ≤ b) :
    s.withSkillBonus k a ≤ s.withSkillBonus k b :=
  Fixed.ite_isUndefined_le (fun h => Fixed.add_le_add_right h _) h

/-- A level with bonuses, apart from its tooltip. -/
theorem withBonuses_level (s : Sheet) (bonuses : List Bonus) (level score : Fixed) :
    (s.withBonuses bonuses level score).level =
      if level.isUndefined then level else level + Fixed.sum (bonuses.map Bonus.amount) := by
  unfold withBonuses bonusTotal
  by_cases h : level.isUndefined = true
  · simp [h]
  · simp [h, Bonus.total_fst]

theorem finished_level (s : Sheet) (k : Skill) (best : Fixed) :
    (s.finished k best).level = s.withSkillBonus k best :=
  withBonuses_level s (s.bonusesToSkill k) best (s.scoreOf k)

/-- The equation of levels without tooltips. -/
theorem levelExcluding_eq (s : Sheet) (e : ExclusionSet) (k : Skill) :
    s.levelExcluding e k =
      s.withSkillBonus k (s.bestFrom (s.levelExcluding (e.insert k.id)) k (e.insert k.id)) := by
  rw [levelExcluding, skillLevel_eq, finished_level]

/-- The best level is the greatest of the trained level and of what the defaults give. -/
theorem isGreatest_bestFrom (s : Sheet) (levelOf : Skill → Fixed) (k : Skill) (e : ExclusionSet) :
    IsGreatest
      {v | v = trainedLevel k.difficulty k.points (s.scoreOf k) ∨
        ∃ d ∈ k.defaults,
          d.levelFrom levelOf s k.replacements true s.settings.ruleOf20 e = v}
      (s.bestFrom levelOf k e) := by
  have hset : {v | v = trainedLevel k.difficulty k.points (s.scoreOf k) ∨
        ∃ d ∈ k.defaults, d.levelFrom levelOf s k.replacements true s.settings.ruleOf20 e = v} =
      {v | v ∈ trainedLevel k.difficulty k.points (s.scoreOf k) ::
        k.defaults.map fun d =>
          d.levelFrom levelOf s k.replacements true s.settings.ruleOf20 e} := by
    ext v
    simp only [Set.mem_ofPred_eq, List.mem_cons, List.mem_map]
  rw [hset]
  exact isGreatest_foldl_max _ _

/-- What a chain starts with is among what the best level is taken from. -/
theorem StartsAt.le_bestFrom {k : Skill} {start : Fixed} (h : s.StartsAt k start)
    (levelOf : Skill → Fixed) (e : ExclusionSet) : start ≤ s.bestFrom levelOf k e := by
  refine (s.isGreatest_bestFrom levelOf k e).2 ?_
  cases h with
  | trained => exact .inl rfl
  | ofAttribute hd hbase =>
      exact .inr ⟨_, hd, by simp [SkillDefault.levelFrom, SkillDefault.fastLevel, hbase]⟩
  | dodge hd hbase =>
      exact .inr ⟨_, hd, by simp [SkillDefault.levelFrom, SkillDefault.fastLevel, hbase]⟩

/-- The skills that the defaults of a skill lead to are the candidates of the defaults to
skills. -/
theorem leadsTo_iff {k : Skill} {l : ChainLink} {e : ExclusionSet} :
    s.LeadsTo k l ∧ l.skill.id ∉ e.ids ↔
      l.via ∈ k.defaults ∧ l.via.isSkillBased = true ∧
        l.skill ∈ l.via.candidates s k.replacements true e := by
  rw [SkillDefault.mem_candidates]
  constructor
  · rintro ⟨h, he⟩
    exact ⟨h.mem_defaults, h.isSkillBased, h.mem_skills, h.name, he, fun _ => h.hasPoints,
      h.specialization⟩
  · rintro ⟨hd, hbase, hk, hname, he, hpoints, hspec⟩
    exact ⟨⟨hd, hbase, hk, hpoints rfl, hname, hspec⟩, he⟩

end Sheet

namespace SkillDefault

/-- The search uses a level through a default as a chain does. -/
theorem onSkill_eq_throughDefault (d : SkillDefault) (s : Sheet) (level : Fixed) :
    d.onSkill s level = s.throughDefault d level := by
  have hundefined (a b : Fixed) :
      (if a.isUndefined then a else b) = if a = .undefined then .undefined else b := by
    by_cases h : a = .undefined
    · rw [if_pos (Fixed.isUndefined_iff.2 h), if_pos h, h]
    · rw [if_neg (mt Fixed.isUndefined_iff.1 h), if_neg h]
  rw [onSkill, modified, hundefined, Sheet.throughDefault]
  cases d.base with
  | parry | block => simp only [derivedDefense, hundefined]
  | skill | dodge | ofAttribute => rfl

/-- A default to skills gives the level of the best candidate. -/
theorem levelFrom_of_isSkillBased {d : SkillDefault} (h : d.isSkillBased = true)
    (levelOf : Skill → Fixed) (s : Sheet) (m : Replacements) (requirePoints ruleOf20 : Bool)
    (e : ExclusionSet) :
    d.levelFrom levelOf s m requirePoints ruleOf20 e =
      d.onSkill s (((d.candidates s m requirePoints e).map levelOf).foldl max .undefined) := by
  unfold levelFrom
  revert h
  unfold isSkillBased DefaultBase.isSkillBased
  cases d.base <;> simp

end SkillDefault

namespace Sheet

variable {s : Sheet}

/-! ### No chain is better -/

/-- A skill is at least as good as the values that follow the links from it. -/
theorem chainValue_le_levelExcluding {start : Fixed} (links : List ChainLink) :
    ∀ (k : Skill) (e : ExclusionSet), s.Linked k links →
      (k.id :: links.map (·.skill.id)).Nodup → (∀ l ∈ links, l.skill.id ∉ e.ids) →
      s.StartsAt (lastSkill k links) start →
      s.chainValue start k links ≤ s.levelExcluding e k := by
  induction links with
  | nil =>
      intro k e _ _ _ hstart
      rw [levelExcluding_eq]
      exact withSkillBonus_le_withSkillBonus (hstart.le_bestFrom _ _)
  | cons l rest ih =>
      intro k e hlinked hdistinct hunexcluded hstart
      have hfree := DefaultChain.tail_unexcluded hdistinct hunexcluded
      obtain ⟨hd, hbase, hcandidate⟩ :=
        leadsTo_iff.1 ⟨hlinked.1, hfree l List.mem_cons_self⟩
      -- The rest of the chain avoids `k` as well, as the nested search does.
      have htail : s.chainValue start l.skill rest ≤ s.levelExcluding (e.insert k.id) l.skill :=
        ih l.skill (e.insert k.id) hlinked.2 (List.nodup_cons.1 hdistinct).2
          (fun l' hl' => hfree l' (List.mem_cons_of_mem l hl')) hstart
      have hbest := (isGreatest_foldl_max Fixed.undefined
        ((l.via.candidates s k.replacements true (e.insert k.id)).map
          (s.levelExcluding (e.insert k.id)))).2
        (List.mem_cons_of_mem _ (List.mem_map_of_mem hcandidate))
      rw [levelExcluding_eq, chainValue, ← SkillDefault.onSkill_eq_throughDefault]
      refine withSkillBonus_le_withSkillBonus (le_trans
        (l.via.onSkill_le_onSkill s (htail.trans hbest)) ?_)
      exact (s.isGreatest_bestFrom _ _ _).2
        (.inr ⟨l.via, hd, SkillDefault.levelFrom_of_isSkillBased hbase _ _ _ _ _ _⟩)

/-- The level of a skill is at least what each of its chains gives. -/
theorem value_le_levelExcluding {k : Skill} {e : ExclusionSet} (c : DefaultChain s k e) :
    c.value ≤ s.levelExcluding e k :=
  chainValue_le_levelExcluding c.links k e c.linked c.distinct c.unexcluded c.starts

/-! ### Some chain is as good -/

/-- What a default gives that does not start from a skill can start a chain. -/
theorem startsAt_levelFrom {k : Skill} {d : SkillDefault} (hd : d ∈ k.defaults)
    (hbase : d.isSkillBased = false) (levelOf : Skill → Fixed) (e : ExclusionSet) :
    s.StartsAt k (d.levelFrom levelOf s k.replacements true s.settings.ruleOf20 e) := by
  unfold SkillDefault.levelFrom SkillDefault.fastLevel
  cases h : d.base with
  | dodge => exact .dodge hd h
  | ofAttribute id => exact .ofAttribute hd h
  | skill | parry | block => simp [SkillDefault.isSkillBased, DefaultBase.isSkillBased, h] at hbase

/-- Some chain gives the level of a skill. -/
theorem exists_chain_value_eq (s : Sheet) (n : Nat) :
    ∀ (k : Skill) (e : ExclusionSet), (s.unexcluded (e.insert k.id)).card < n →
      ∃ c : DefaultChain s k e, c.value = s.levelExcluding e k := by
  induction n with
  | zero =>
      intro k e h
      exact absurd h (Nat.not_lt_zero _)
  | succ n ih =>
      intro k e hcard
      -- Where the best level starts at `k` itself, the chain has no links.
      have hsingle {start : Fixed} (h : s.StartsAt k start)
          (heq : s.bestFrom (s.levelExcluding (e.insert k.id)) k (e.insert k.id) = start) :
          ∃ c : DefaultChain s k e, c.value = s.levelExcluding e k :=
        ⟨.single h, by rw [levelExcluding_eq, heq]; rfl⟩
      rcases (s.isGreatest_bestFrom (s.levelExcluding (e.insert k.id)) k (e.insert k.id)).1 with
        htrained | ⟨d, hd, hlevel⟩
      · exact hsingle .trained htrained
      · by_cases hbase : d.isSkillBased = true
        · rw [SkillDefault.levelFrom_of_isSkillBased hbase] at hlevel
          have hattained := (isGreatest_foldl_max Fixed.undefined
            ((d.candidates s k.replacements true (e.insert k.id)).map
              (s.levelExcluding (e.insert k.id)))).1
          rcases List.mem_cons.1 hattained with hnone | hsome
          · -- No candidate has a level, and so the trained level is as good.
            rw [hnone, SkillDefault.onSkill_undefined] at hlevel
            refine hsingle .trained (le_antisymm ?_ ?_)
            · rw [← hlevel]
              exact Fixed.undefined_le _
            · exact StartsAt.trained.le_bestFrom _ _
          · obtain ⟨o, ho, hvalue⟩ := List.mem_map.1 hsome
            obtain ⟨hleads, hfree⟩ := leadsTo_iff (l := ⟨d, o⟩).2 ⟨hd, hbase, ho⟩
            have hless : (s.unexcluded ((e.insert k.id).insert o.id)).card <
                (s.unexcluded (e.insert k.id)).card :=
              card_unexcluded_insert_lt hleads.mem_skills hfree
            obtain ⟨c, hc⟩ := ih o (e.insert k.id) (by omega)
            refine ⟨.cons ⟨d, o⟩ hleads hfree c, ?_⟩
            rw [levelExcluding_eq, ← hlevel, ← hvalue, ← hc, SkillDefault.onSkill_eq_throughDefault]
            rfl
        · exact hsingle (startsAt_levelFrom hd (Bool.not_eq_true _ ▸ hbase) _ _) hlevel.symm

/-- **The level of a skill is that of its best chain.** It is the greatest of the values of
the chains of defaults that start from the skill, meet no skill twice and avoid what is
excluded; without a chain that has a value it is undefined. -/
theorem skillLevel_isGreatest_chain (s : Sheet) (k : Skill) (e : ExclusionSet) :
    IsGreatest (Set.range (DefaultChain.value : DefaultChain s k e → Fixed))
        (s.skillLevel k e).1.level ∧
      ((∀ c : DefaultChain s k e, c.value = .undefined) →
        (s.skillLevel k e).1.level = .undefined) := by
  obtain ⟨c, hc⟩ := s.exists_chain_value_eq _ k e (Nat.lt_succ_self _)
  refine ⟨⟨⟨c, hc⟩, ?_⟩, fun h => hc.symm.trans (h c)⟩
  rintro _ ⟨c', rfl⟩
  exact value_le_levelExcluding c'

/-- Excluding more skills never raises a level: it only leaves fewer chains. -/
theorem levelExcluding_le_of_subset {e e' : ExclusionSet} (h : ∀ id ∈ e.ids, id ∈ e'.ids)
    (k : Skill) : s.levelExcluding e' k ≤ s.levelExcluding e k := by
  obtain ⟨c, hc⟩ := s.exists_chain_value_eq _ k e' (Nat.lt_succ_self _)
  have hless := value_le_levelExcluding
    { c with unexcluded := fun l hl hin => c.unexcluded l hl (h _ hin) : DefaultChain s k e }
  exact hc ▸ hless

end Sheet

end CharacterSheet
