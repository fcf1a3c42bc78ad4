import Mathlib.Data.Finset.Card
import CharacterSheet.Proofs.FixedOrder

/-!
# Resolution of skill levels

The search for the level of a skill threads an exclusion set and a budget for the depth
of its calls. This module proves that neither shows from outside: the budget suffices
always, the exclusion set comes back as it was, and the levels satisfy one recursive
equation, `skillLevel_eq`, that mentions no budget.

The measure is the number of different ids of skills that are not excluded yet
(`Sheet.unexcluded`): a nested call is about one of them and excludes it.
-/

namespace CharacterSheet

/-! ### Loops that keep the best level -/

/-- If each step of a loop gives its level and leaves the exclusion set as it is, the loop
gives the best level and leaves it, too. -/
theorem Resolution.run_foldlM_best {α : Type} {f : α → Resolution Fixed} {g : α → Fixed}
    {e : ExclusionSet} {l : List α} (h : ∀ x ∈ l, (f x).run e = some (g x, e)) (best : Fixed) :
    (l.foldlM
        (fun best x => do
          let level ← f x
          pure (if best < level then level else best))
        best).run e = some ((l.map g).foldl max best, e) := by
  induction l generalizing best with
  | nil => rfl
  | cons x rest ih =>
      have hx : (f x).run e = some (g x, e) := h x List.mem_cons_self
      have hrest := ih (fun y hy => h y (List.mem_cons_of_mem x hy)) (max best (g x))
      simp only [List.foldlM_cons, StateT.run_bind, hx, Option.bind_eq_bind, Option.bind_some,
        StateT.run_pure, Option.pure_def, List.map_cons, List.foldl_cons]
      rw [ite_lt_eq_max]
      exact hrest

namespace SkillDefault

/-- The level that a default gives when `levelOf` says the levels of other skills. -/
def levelFrom (levelOf : Skill → Fixed) (d : SkillDefault) (s : Sheet) (m : Replacements)
    (requirePoints ruleOf20 : Bool) (excluded : ExclusionSet) : Fixed :=
  match d.base with
  | .dodge | .ofAttribute _ => d.fastLevel s m requirePoints excluded ruleOf20
  | .skill | .parry | .block =>
    d.onSkill s (((d.candidates s m requirePoints excluded).map levelOf).foldl max .undefined)

/-- The fast form takes the levels of other skills as they were last computed. -/
theorem fastLevel_eq_levelFrom (d : SkillDefault) (s : Sheet) (m : Replacements)
    (requirePoints ruleOf20 : Bool) (e : ExclusionSet) :
    d.fastLevel s m requirePoints e ruleOf20 =
      d.levelFrom (·.level.level) s m requirePoints ruleOf20 e := by
  unfold levelFrom fastLevel
  cases d.base <;> rfl

/-- Resolving a default takes its level from the levels of the candidates. -/
theorem run_resolveWith {d : SkillDefault} {s : Sheet} {m : Replacements}
    {requirePoints ruleOf20 : Bool} {e : ExclusionSet} {f : Skill → Resolution Fixed}
    {g : Skill → Fixed}
    (h : ∀ k ∈ d.candidates s m requirePoints e, (f k).run e = some (g k, e)) :
    (d.resolveWith f s m requirePoints ruleOf20).run e =
      some (d.levelFrom g s m requirePoints ruleOf20 e, e) := by
  have hbest := Resolution.run_foldlM_best h .undefined
  unfold resolveWith levelFrom
  simp only [StateT.run_bind, StateT.run_get, Option.pure_def, Option.bind_eq_bind,
    Option.bind_some]
  cases d.base with
  | dodge => rfl
  | ofAttribute id => rfl
  | skill => simp only [StateT.run_bind, hbest]; rfl
  | parry => simp only [StateT.run_bind, hbest]; rfl
  | block => simp only [StateT.run_bind, hbest]; rfl

/-- A skill that a default names is on the sheet, goes by the name and the specialization of
the default, and is not excluded. -/
theorem mem_candidates {d : SkillDefault} {s : Sheet} {m : Replacements} {requirePoints : Bool}
    {e : ExclusionSet} {k : Skill} :
    k ∈ d.candidates s m requirePoints e ↔
      k ∈ s.skills ∧ Text.equalsIgnoringCase k.displayName (d.nameWith m) = true ∧
        k.id ∉ e.ids ∧ (requirePoints = true → 0 < k.points) ∧
        (d.specializationWith m = "" ∨
          Text.equalsIgnoringCase k.displaySpecialization (d.specializationWith m) = true) := by
  have hpoints : (!requirePoints || decide (0 < k.points)) = true ↔
      (requirePoints = true → 0 < k.points) := by
    cases requirePoints <;> simp
  rw [candidates, Sheet.skillsNamed, List.mem_filter]
  simp only [Bool.and_eq_true, Bool.or_eq_true, Bool.not_eq_true', ExclusionSet.contains_eq_false,
    String.isEmpty_iff, and_assoc, ← hpoints]

end SkillDefault

namespace Sheet

/-! ### The measure -/

/-- The ids of skills that are not excluded. -/
def unexcluded (s : Sheet) (e : ExclusionSet) : Finset ItemId :=
  (s.skills.map (·.id)).toFinset.filter (· ∉ e.ids)

theorem mem_unexcluded {s : Sheet} {e : ExclusionSet} {id : ItemId} :
    id ∈ s.unexcluded e ↔ (∃ k ∈ s.skills, k.id = id) ∧ id ∉ e.ids := by
  simp [unexcluded]

theorem card_unexcluded_le (s : Sheet) (e : ExclusionSet) :
    (s.unexcluded e).card ≤ s.skills.length := by
  calc (s.unexcluded e).card
      ≤ (s.skills.map (·.id)).toFinset.card := Finset.card_filter_le _ _
    _ ≤ (s.skills.map (·.id)).length := List.toFinset_card_le _
    _ = s.skills.length := List.length_map _

/-- Excluding a skill that was not excluded leaves fewer skills. -/
theorem card_unexcluded_insert_lt {s : Sheet} {e : ExclusionSet} {k : Skill} (hk : k ∈ s.skills)
    (he : k.id ∉ e.ids) : (s.unexcluded (e.insert k.id)).card < (s.unexcluded e).card := by
  refine Finset.card_lt_card (Finset.ssubset_iff_of_subset ?_ |>.2 ⟨k.id, ?_, ?_⟩)
  · intro id hid
    rw [mem_unexcluded] at hid ⊢
    exact ⟨hid.1, fun h => hid.2 (ExclusionSet.mem_insert.2 (.inr h))⟩
  · exact mem_unexcluded.2 ⟨⟨k, hk, rfl⟩, he⟩
  · intro h
    exact (mem_unexcluded.1 h).2 (ExclusionSet.mem_insert.2 (.inl rfl))

/-! ### One call -/

/-- The attribute that the level of a skill is based on. -/
def scoreOf (s : Sheet) (k : Skill) : Fixed := s.attributeCurrent k.difficulty.attributeId

/-- The best of the trained level of a skill and the levels that its defaults give when
`levelOf` says the levels of other skills. -/
def bestFrom (s : Sheet) (levelOf : Skill → Fixed) (k : Skill) (e : ExclusionSet) : Fixed :=
  (k.defaults.map fun d =>
      d.levelFrom levelOf s k.replacements true s.settings.ruleOf20 e).foldl max
    (trainedLevel k.difficulty k.points (s.scoreOf k))

/-- The level of a skill, with its bonuses, from the best level before them. -/
def finished (s : Sheet) (k : Skill) (best : Fixed) : Level :=
  s.withBonuses (s.bonusesToSkill k) best (s.scoreOf k)

/-- A call takes the best level from the levels that nested calls give, and restores the
exclusion set. -/
theorem run_resolve_succ {s : Sheet} {depth : Nat} {k : Skill} {e : ExclusionSet}
    {levelOf : Skill → Fixed}
    (h : ∀ o ∈ s.skills, o.id ∉ (e.insert k.id).ids →
      ∃ l, (s.resolve depth o).run (e.insert k.id) = some (l, e.insert k.id) ∧
        l.level = levelOf o) :
    (s.resolve (depth + 1) k).run e =
      some (s.finished k (s.bestFrom levelOf k (e.insert k.id)), e) := by
  have hdefault : ∀ d ∈ k.defaults,
      (d.resolveWith (fun o => return (← s.resolve depth o).level) s k.replacements true
          s.settings.ruleOf20).run (e.insert k.id) =
        some (d.levelFrom levelOf s k.replacements true s.settings.ruleOf20 (e.insert k.id),
          e.insert k.id) := by
    intro d _
    refine SkillDefault.run_resolveWith fun o ho => ?_
    obtain ⟨hmem, -, hfree, -⟩ := SkillDefault.mem_candidates.1 ho
    obtain ⟨l, hrun, hl⟩ := h o hmem hfree
    simp [hrun, hl]
  have hbest := Resolution.run_foldlM_best hdefault
    (trainedLevel k.difficulty k.points (s.scoreOf k))
  rw [resolve]
  simp only [StateT.run_bind, StateT.run_get, StateT.run_set, Option.pure_def, Option.bind_eq_bind,
    Option.bind_some]
  rw [show s.attributeCurrent k.difficulty.attributeId = s.scoreOf k from rfl, hbest,
    Option.bind_some]
  -- A skill that was excluded before stays so; for it nothing was inserted.
  split
  · next hin =>
    rw [ExclusionSet.insert_of_mem (ExclusionSet.contains_eq_true.1 hin)]
    rfl
  · next hout =>
    rw [StateT.run_bind, StateT.run_modify, Option.pure_def, Option.bind_eq_bind,
      Option.bind_some, ExclusionSet.remove_insert (Bool.not_eq_true _ ▸ hout)]
    rfl

/-! ### A whole search -/

/-- A budget above the number of skills left suffices, and more of it changes nothing. -/
theorem run_resolve_of_card_lt (s : Sheet) (n : Nat) :
    ∀ (k : Skill) (e : ExclusionSet), (s.unexcluded (e.insert k.id)).card < n →
      ∃ l, ∀ depth ≥ n, (s.resolve depth k).run e = some (l, e) := by
  induction n with
  | zero =>
      intro k e h
      exact absurd h (Nat.not_lt_zero _)
  | succ n ih =>
      intro k e h
      -- What the nested calls give, each with the budget that it needs at least.
      let levelOf : Skill → Fixed := fun o =>
        (((s.resolve n o).run (e.insert k.id)).map (·.1.level)).getD .undefined
      refine ⟨s.finished k (s.bestFrom levelOf k (e.insert k.id)), ?_⟩
      intro depth hdepth
      obtain ⟨depth, rfl⟩ : ∃ d, depth = d + 1 := ⟨depth - 1, by omega⟩
      refine run_resolve_succ fun o ho hfree => ?_
      have hless := card_unexcluded_insert_lt ho hfree
      obtain ⟨l, hl⟩ := ih o (e.insert k.id) (by omega)
      refine ⟨l, hl depth (by omega), ?_⟩
      simp [levelOf, hl n (Nat.le_refl n)]

/-- The level of a skill is what the search gives with any budget that suffices, and the
search leaves the exclusion set as it was. -/
theorem run_resolve {s : Sheet} {k : Skill} {e : ExclusionSet} {n : Nat}
    (h : (s.unexcluded (e.insert k.id)).card < n) :
    (s.resolve n k).run e = some (s.skillLevel k e) ∧ (s.skillLevel k e).2 = e := by
  obtain ⟨l, hl⟩ := s.run_resolve_of_card_lt _ k e (Nat.lt_succ_self _)
  have hn : (s.resolve n k).run e = some (l, e) := hl n h
  have hbound : (s.resolve s.depthBound k).run e = some (l, e) :=
    hl s.depthBound (Nat.succ_le_succ (s.card_unexcluded_le _))
  have hlevel : s.skillLevel k e = (l, e) := by
    rw [skillLevel, hbound, Option.getD_some]
  rw [hlevel]
  exact ⟨hn, rfl⟩

/-- The level of a skill while some skills are excluded. -/
def levelExcluding (s : Sheet) (e : ExclusionSet) (k : Skill) : Fixed := (s.skillLevel k e).1.level

/-- **The equation of levels**: the level of a skill comes from its trained level and the
levels of the other skills while it is excluded itself. -/
theorem skillLevel_eq (s : Sheet) (k : Skill) (e : ExclusionSet) :
    s.skillLevel k e =
      (s.finished k (s.bestFrom (s.levelExcluding (e.insert k.id)) k (e.insert k.id)), e) := by
  have hcall := (run_resolve (s := s) (k := k) (e := e) (n := s.depthBound)
    (Nat.lt_succ_of_le (s.card_unexcluded_le _))).1
  have hstep : (s.resolve s.depthBound k).run e =
      some (s.finished k (s.bestFrom (s.levelExcluding (e.insert k.id)) k (e.insert k.id)), e) := by
    refine run_resolve_succ fun o ho hfree => ?_
    have hless := card_unexcluded_insert_lt ho hfree
    have hcard := s.card_unexcluded_le (e.insert k.id)
    obtain ⟨hrun, hset⟩ := run_resolve (s := s) (k := o) (e := e.insert k.id)
      (n := s.skills.length) (by omega)
    refine ⟨(s.skillLevel o (e.insert k.id)).1, ?_, rfl⟩
    rw [hrun]
    exact congrArg some (Prod.ext rfl hset)
  exact Option.some.inj (hcall.symm.trans hstep)

/-- A default takes the levels of the skills that it names as they are computed anew. -/
theorem defaultLevel_eq (s : Sheet) (d : SkillDefault) (m : Replacements) (requirePoints : Bool)
    (e : ExclusionSet) (ruleOf20 : Bool) :
    s.defaultLevel d m requirePoints e ruleOf20 =
      (d.levelFrom (s.levelExcluding e) s m requirePoints ruleOf20 e, e) := by
  have hrun : (d.resolveWith (fun k => return (← s.resolve s.depthBound k).level) s m
      requirePoints ruleOf20).run e =
        some (d.levelFrom (s.levelExcluding e) s m requirePoints ruleOf20 e, e) := by
    refine SkillDefault.run_resolveWith fun k _ => ?_
    obtain ⟨hcall, hset⟩ := run_resolve (s := s) (k := k) (e := e) (n := s.depthBound)
      (Nat.lt_succ_of_le (s.card_unexcluded_le _))
    simp [hcall, hset, levelExcluding]
  rw [defaultLevel, hrun, Option.getD_some]

end Sheet

end CharacterSheet
