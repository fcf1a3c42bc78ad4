import CharacterSheet.Proofs.Resolution

/-!
# Nested calls of a search

The search for the level of a skill calls itself for the skills that its defaults name. This module
looks at these calls one by one. The search is stated for any monad that has an exclusion set, and
is run in one that writes a log as well: `Sheet.logged` records every call as it is entered, with
the skills that are under way and with what is excluded then.

The log says how deep calls are nested, `Sheet.search_depth_le`: no deeper than there are skills
left to exclude. It also says that exclusions are kept as they should be,
`Sheet.search_restores_excluded`: on entry of a call the skills under way are excluded besides those
that were excluded at the start, none of them is called again, and in the end the exclusions are
those of the start.
-/

namespace CharacterSheet

/-! ### The search in any monad with an exclusion set -/

section AnyMonad

variable {M : Type → Type} [Monad M] [MonadStateOf ExclusionSet M]

/-- The level that a default gives, with the levels of other skills computed by `levelOf`. -/
def SkillDefault.resolveIn (levelOf : Skill → M Fixed) (d : SkillDefault) (s : Sheet)
    (m : Replacements) (requirePoints ruleOf20 : Bool) : M Fixed := do
  let excluded ← get
  match d.base with
  | .dodge | .ofAttribute _ => pure (d.fastLevel s m requirePoints excluded ruleOf20)
  | .skill | .parry | .block =>
    let best ← (d.candidates s m requirePoints excluded).foldlM
      (fun best k => do
        let level ← levelOf k
        pure (if best < level then level else best))
      .undefined
    pure (d.onSkill s best)

/-- One call for the level of a skill, which leaves the nested calls to `nested`. -/
def Sheet.callIn (s : Sheet) (nested : Skill → M Level) (k : Skill) : M Level := do
  let before ← get
  set (before.insert k.id)
  let score := s.attributeCurrent k.difficulty.attributeId
  let level ← k.defaults.foldlM
    (fun level d => do
      let candidate ← d.resolveIn (fun other => return (← nested other).level) s
        k.replacements true s.settings.ruleOf20
      pure (if level < candidate then candidate else level))
    (trainedLevel k.difficulty k.points score)
  unless before.contains k.id do
    modify (·.remove k.id)
  pure (s.withBonuses (s.bonusesToSkill k) level score)

end AnyMonad

theorem SkillDefault.resolveWith_eq_resolveIn : SkillDefault.resolveWith = SkillDefault.resolveIn :=
  rfl

/-- A search is one call whose nested calls are searches with a budget that is smaller by one. -/
theorem Sheet.resolve_succ (s : Sheet) (depth : Nat) (k : Skill) :
    s.resolve (depth + 1) k = s.callIn (s.resolve depth) k :=
  rfl

/-! ### The log of calls -/

/-- A call for the level of a skill as it is entered: the skills whose levels are under way, the
last one first, and what is excluded. -/
structure Call where
  callers : List Skill
  skill : Skill
  excluded : ExclusionSet

/-- How deep a call is nested; the outermost call has depth one. -/
def Call.depth (c : Call) : Nat := c.callers.length + 1

/-- A call that is entered with what was excluded at the start and the skills under way excluded,
and with nothing else, on the way to which no skill was called twice. -/
structure Call.OnPath (start : ExclusionSet) (c : Call) : Prop where
  excluded_iff : ∀ id, id ∈ c.excluded.ids ↔ id ∈ start.ids ∨ id ∈ c.callers.map (·.id)
  distinct : ((c.skill :: c.callers).map (·.id)).Nodup

/-- A computation over an exclusion set that may run out of its budget and that logs calls. -/
abbrev Logging := StateT ExclusionSet (StateT (List Call) Option)

/-- Logs a call on its entry. -/
def Logging.enter (callers : List Skill) (k : Skill) : Logging Unit := do
  let excluded ← get
  modifyThe (List Call) (· ++ [{ callers, skill := k, excluded }])

/-- The search for the level of a skill, with every call logged. -/
def Sheet.logged (s : Sheet) : (depth : Nat) → (callers : List Skill) → Skill → Logging Level
  | 0, _, _ => fun _ _ => none
  | depth + 1, callers, k => do
    Logging.enter callers k
    s.callIn (logged s depth (k :: callers)) k

namespace Logging

/-- From an exclusion set, a computation gives a value, leaves an exclusion set, and adds calls to
the log that satisfy a condition. -/
def Runs {α : Type} (x : Logging α) (e : ExclusionSet) (a : α) (e' : ExclusionSet)
    (P : Call → Prop) : Prop :=
  ∀ log, ∃ made, (x.run e).run log = some ((a, e'), log ++ made) ∧ ∀ c ∈ made, P c

variable {α β : Type} {e e' e'' : ExclusionSet} {P Q : Call → Prop}

theorem Runs.mono {x : Logging α} {a : α} (h : x.Runs e a e' P) (hPQ : ∀ c, P c → Q c) :
    x.Runs e a e' Q := by
  intro log
  obtain ⟨made, hrun, hmade⟩ := h log
  exact ⟨made, hrun, fun c hc => hPQ c (hmade c hc)⟩

/-- What makes no calls adds none to the log. -/
theorem Runs.of_run_eq {x : Logging α} {a : α}
    (h : ∀ log, (x.run e).run log = some ((a, e'), log)) :
    x.Runs e a e' P := by
  intro log
  refine ⟨[], ?_, fun c hc => absurd hc List.not_mem_nil⟩
  rw [List.append_nil]
  exact h log

theorem Runs.pure (a : α) (e : ExclusionSet) : Runs (pure a) e a e P := .of_run_eq fun _ => rfl

theorem Runs.bind {x : Logging α} {f : α → Logging β} {a : α} {b : β} (h : x.Runs e a e' P)
    (h' : (f a).Runs e' b e'' P) : (x >>= f).Runs e b e'' P := by
  intro log
  obtain ⟨made, hrun, hmade⟩ := h log
  obtain ⟨made', hrun', hmade'⟩ := h' (log ++ made)
  refine ⟨made ++ made', ?_, List.forall_mem_append.2 ⟨hmade, hmade'⟩⟩
  simp only [StateT.run_bind, hrun, Option.bind_eq_bind, Option.bind_some, hrun',
    List.append_assoc]

theorem runs_enter (callers : List Skill) (k : Skill) (e : ExclusionSet)
    (h : P { callers, skill := k, excluded := e }) : (enter callers k).Runs e () e P := by
  intro log
  exact ⟨[{ callers, skill := k, excluded := e }], rfl, List.forall_mem_singleton.2 h⟩

/-- A loop that keeps the best level gives the best level and leaves the exclusion set as it is, if
its steps do. -/
theorem Runs.foldlM_best {f : α → Logging Fixed} {g : α → Fixed} {l : List α}
    (h : ∀ x ∈ l, (f x).Runs e (g x) e P) (best : Fixed) :
    Runs
      (l.foldlM
        (fun best x => do
          let level ← f x
          Pure.pure (if best < level then level else best))
        best)
      e ((l.map g).foldl max best) e P := by
  induction l generalizing best with
  | nil => exact .pure best e
  | cons x rest ih =>
      have hrest := ih (fun y hy => h y (List.mem_cons_of_mem x hy)) (max best (g x))
      have hchoice :
          Runs (Pure.pure (if best < g x then g x else best)) e (max best (g x)) e P := by
        rw [← ite_lt_eq_max]
        exact .pure _ e
      rw [List.foldlM_cons]
      exact ((h x List.mem_cons_self).bind hchoice).bind hrest

end Logging

open Logging (Runs)

/-- A default makes the calls that are made for the skills it names. -/
theorem SkillDefault.runs_resolveIn {d : SkillDefault} {s : Sheet} {m : Replacements}
    {requirePoints ruleOf20 : Bool} {e : ExclusionSet} {f : Skill → Logging Fixed}
    {g : Skill → Fixed} {P : Call → Prop}
    (h : ∀ k ∈ d.candidates s m requirePoints e, (f k).Runs e (g k) e P) :
    (d.resolveIn f s m requirePoints ruleOf20).Runs e
      (d.levelFrom g s m requirePoints ruleOf20 e) e P := by
  have hget : Runs (get : Logging ExclusionSet) e e e P := .of_run_eq fun _ => rfl
  have hbest := Runs.foldlM_best h .undefined
  refine hget.bind ?_
  unfold levelFrom
  cases d.base with
  | dodge | ofAttribute id => exact .pure _ e
  | skill | parry | block => exact hbest.bind (.pure _ e)

namespace Sheet

/-- A call gives the level of its skill and restores the exclusion set, if the nested calls give the
levels of theirs. -/
theorem runs_callIn {s : Sheet} {nested : Skill → Logging Level} {k : Skill} {e : ExclusionSet}
    {P : Call → Prop}
    (h : ∀ o ∈ s.skills, o.id ∉ (e.insert k.id).ids →
      (nested o).Runs (e.insert k.id) (s.skillLevel o (e.insert k.id)).1 (e.insert k.id) P) :
    (s.callIn nested k).Runs e (s.skillLevel k e).1 e P := by
  have hget : Runs (get : Logging ExclusionSet) e e e P := .of_run_eq fun _ => rfl
  have hset : Runs (set (e.insert k.id) : Logging PUnit) e ⟨⟩ (e.insert k.id) P :=
    .of_run_eq fun _ => rfl
  have hdefault : ∀ d ∈ k.defaults,
      (d.resolveIn (fun o => return (← nested o).level) s k.replacements true
          s.settings.ruleOf20).Runs (e.insert k.id)
        (d.levelFrom (s.levelExcluding (e.insert k.id)) s k.replacements true s.settings.ruleOf20
          (e.insert k.id)) (e.insert k.id) P := by
    intro d _
    refine d.runs_resolveIn fun o ho => ?_
    obtain ⟨hmem, -, hfree, -⟩ := SkillDefault.mem_candidates.1 ho
    exact (h o hmem hfree).bind (.pure (s.skillLevel o (e.insert k.id)).1.level _)
  have hdefaults := Runs.foldlM_best hdefault (trainedLevel k.difficulty k.points (s.scoreOf k))
  rw [skillLevel_eq]
  refine hget.bind (hset.bind (hdefaults.bind ?_))
  -- A skill that was excluded before stays so; for it nothing was inserted.
  by_cases hin : k.id ∈ e.ids
  · have hcontains : e.contains k.id = true := ExclusionSet.contains_eq_true.2 hin
    rw [hcontains, ExclusionSet.insert_of_mem hin]
    exact .pure _ e
  · have hcontains : e.contains k.id = false := ExclusionSet.contains_eq_false.2 hin
    have hremove : Runs (modify (·.remove k.id) : Logging PUnit) (e.insert k.id) ⟨⟩ e P := by
      refine .of_run_eq fun log => ?_
      show some ((PUnit.unit, (e.insert k.id).remove k.id), log) = _
      rw [ExclusionSet.remove_insert hcontains]
    rw [hcontains]
    exact hremove.bind (.pure _ e)

/-- The outermost call of a search is logged as it is entered; what else is logged are nested
calls. -/
theorem runs_logged_succ {s : Sheet} {depth : Nat} {callers : List Skill} {k : Skill}
    {e : ExclusionSet} {P : Call → Prop} (henter : P { callers, skill := k, excluded := e })
    (h : ∀ o ∈ s.skills, o.id ∉ (e.insert k.id).ids →
      (s.logged depth (k :: callers) o).Runs (e.insert k.id) (s.skillLevel o (e.insert k.id)).1
        (e.insert k.id) P) :
    (s.logged (depth + 1) callers k).Runs e (s.skillLevel k e).1 e P :=
  (Logging.runs_enter callers k e henter).bind (runs_callIn h)

/-- **Step of the log**: below a call that is entered as it should be, for a skill that is not
excluded, every call is entered as it should be, for a skill that was not excluded at the start, and
no deeper than there are skills left to exclude. -/
theorem runs_logged (s : Sheet) (start : ExclusionSet) (bound depth : Nat) :
    ∀ (callers : List Skill) (k : Skill) (e : ExclusionSet),
      (s.unexcluded (e.insert k.id)).card < depth →
      callers.length + 1 + (s.unexcluded (e.insert k.id)).card ≤ bound →
      (∀ id, id ∈ e.ids ↔ id ∈ start.ids ∨ id ∈ callers.map (·.id)) →
      (callers.map (·.id)).Nodup → k.id ∉ e.ids →
      (s.logged depth callers k).Runs e (s.skillLevel k e).1 e
        fun c => c.OnPath start ∧ c.skill.id ∉ start.ids ∧ c.depth ≤ bound := by
  induction depth with
  | zero =>
      intro callers k e hcard
      exact absurd hcard (Nat.not_lt_zero _)
  | succ depth ih =>
      intro callers k e hcard hbound hexcluded hdistinct hfree
      have hstart : k.id ∉ start.ids := fun h => hfree ((hexcluded k.id).2 (.inl h))
      have hcallers : ((k :: callers).map (·.id)).Nodup :=
        List.nodup_cons.2 ⟨fun h => hfree ((hexcluded k.id).2 (.inr h)), hdistinct⟩
      have hinsert : ∀ id, id ∈ (e.insert k.id).ids ↔
          id ∈ start.ids ∨ id ∈ (k :: callers).map (·.id) := by
        intro id
        rw [ExclusionSet.mem_insert, hexcluded, List.map_cons, List.mem_cons]
        exact or_left_comm
      refine runs_logged_succ ⟨⟨hexcluded, hcallers⟩, hstart, ?_⟩ fun o ho hother => ?_
      · show callers.length + 1 ≤ bound
        omega
      · have hless := card_unexcluded_insert_lt ho hother
        refine ih (k :: callers) o (e.insert k.id) (by omega) ?_ hinsert hcallers hother
        rw [List.length_cons]
        omega

theorem card_unexcluded_insert_le (s : Sheet) (e : ExclusionSet) (id : ItemId) :
    (s.unexcluded (e.insert id)).card ≤ (s.unexcluded e).card := by
  refine Finset.card_le_card fun x hx => ?_
  rw [mem_unexcluded] at hx ⊢
  exact ⟨hx.1, fun h => hx.2 (ExclusionSet.mem_insert.2 (.inr h))⟩

/-- The calls of a whole search. The first skill may be excluded from the start, and need not be on
the sheet. -/
theorem runs_logged_nil (s : Sheet) (k : Skill) (e : ExclusionSet) {depth : Nat}
    (h : (s.unexcluded (e.insert k.id)).card < depth) :
    (s.logged depth [] k).Runs e (s.skillLevel k e).1 e fun c =>
      c.OnPath e ∧ (c.callers ≠ [] → c.skill.id ∉ e.ids) ∧
        c.depth ≤ 1 + (s.unexcluded (e.insert k.id)).card := by
  obtain ⟨depth, rfl⟩ : ∃ d, depth = d + 1 := ⟨depth - 1, by omega⟩
  have hentry : ∀ id, id ∈ e.ids ↔ id ∈ e.ids ∨ id ∈ ([] : List Skill).map (·.id) := by simp
  have hinsert : ∀ id, id ∈ (e.insert k.id).ids ↔ id ∈ e.ids ∨ id ∈ [k].map (·.id) := by
    intro id
    rw [ExclusionSet.mem_insert, List.map_singleton, List.mem_singleton, or_comm]
  refine runs_logged_succ ⟨⟨hentry, List.nodup_singleton _⟩, fun h => absurd rfl h, ?_⟩
    fun o ho hother => ?_
  · exact Nat.le_add_right _ _
  · have hless := card_unexcluded_insert_lt ho hother
    have hnested := s.runs_logged e (1 + (s.unexcluded (e.insert k.id)).card) depth [k] o
      (e.insert k.id) (by omega) (by rw [List.length_singleton]; omega) hinsert
      (List.nodup_singleton _) hother
    exact hnested.mono fun c hc => ⟨hc.1, fun _ => hc.2.1, hc.2.2⟩

/-- The calls that are made for a default. -/
theorem runs_resolveIn_logged (s : Sheet) (d : SkillDefault) (m : Replacements)
    (requirePoints ruleOf20 : Bool) (e : ExclusionSet) {depth : Nat}
    (h : (s.unexcluded e).card ≤ depth) :
    (d.resolveIn (fun k => return (← s.logged depth [] k).level) s m requirePoints ruleOf20).Runs e
      (s.defaultLevel d m requirePoints e ruleOf20).1 e fun c =>
        c.OnPath e ∧ c.skill.id ∉ e.ids := by
  rw [defaultLevel_eq]
  refine d.runs_resolveIn fun k hk => ?_
  obtain ⟨hmem, -, hfree, -⟩ := SkillDefault.mem_candidates.1 hk
  have hless := card_unexcluded_insert_lt hmem hfree
  have hcall := s.runs_logged e _ depth [] k e (by omega) (Nat.le_refl _) (by simp) List.nodup_nil
    hfree
  exact (hcall.mono fun c hc => ⟨hc.1, hc.2.1⟩).bind (.pure (s.skillLevel k e).1.level e)

/-- **A search ends, and its calls are not nested deep.** With a budget of one call more than there
are different ids of skills that are neither excluded nor that of the skill itself, the search for
the level of a skill comes to an end, and no call in it is nested deeper than that. A larger budget
makes no difference. -/
theorem search_depth_le (s : Sheet) (k : Skill) (e : ExclusionSet) {budget : Nat}
    (h : 1 + (s.unexcluded (e.insert k.id)).card ≤ budget) :
    (s.resolve budget k).run e = some (s.skillLevel k e) ∧
      (s.logged budget [] k).Runs e (s.skillLevel k e).1 e
        fun c => c.depth ≤ 1 + (s.unexcluded (e.insert k.id)).card := by
  have hbudget : (s.unexcluded (e.insert k.id)).card < budget := by omega
  refine ⟨(run_resolve hbudget).1, (s.runs_logged_nil k e hbudget).mono ?_⟩
  intro c hc
  exact hc.2.2

/-- A skill with a default to the first skill of `ringSheet`, and to the parry of the second. -/
def ringBroadsword : Skill where
  id := ⟨3⟩
  name := "Broadsword"
  difficulty := ⟨"dx", .average⟩
  points := 20
  defaults := [.toSkill "Knife" (-4), { base := .parry, name := "Shortsword" }]

/-- Three skills in a ring of defaults, with ways back. -/
def ringSheet : Sheet where
  attributes := KeyMap.empty.insert "dx" { name := "Dexterity", base := 12 }
  skills := [
    { id := ⟨1⟩, name := "Knife", difficulty := ⟨"dx", .easy⟩, points := 1
      defaults := [.toSkill "Shortsword" (-3)] },
    { id := ⟨2⟩, name := "Shortsword", difficulty := ⟨"dx", .average⟩, points := 2
      defaults := [.toSkill "Knife" (-4), .toSkill "Broadsword" (-2)] },
    ringBroadsword]

/-- Two skills are left to exclude, and the search goes to both in turn from either of them. -/
theorem ringSheet_depth_le :
    1 + (ringSheet.unexcluded (ExclusionSet.empty.insert ringBroadsword.id)).card = 3 ∧
      ((((ringSheet.logged 3 [] ringBroadsword).run .empty).run []).map
        fun r => r.2.map Call.depth) = some [1, 2, 3, 2, 3] ∧
      (ringSheet.logged 3 [] ringBroadsword).Runs .empty
        (ringSheet.skillLevel ringBroadsword .empty).1 .empty
        fun c => c.depth ≤ 1 + (ringSheet.unexcluded (ExclusionSet.empty.insert ⟨3⟩)).card :=
  ⟨by decide, by decide, (search_depth_le ringSheet ringBroadsword .empty (by decide)).2⟩

/-- **Exclusions are restored, and respected on the way.** With a budget that suffices, the search
for the level of a skill and the search for that of a default end with what was excluded at the
start, whether or not the skill was excluded itself. On entry of each call in them, what is excluded
is what was excluded at the start and the skills under way; the skills on the way to a call are
different, and no skill is called that was excluded at the start, the outermost one apart. -/
theorem search_restores_excluded (s : Sheet) (e : ExclusionSet) {budget : Nat}
    (h : (s.unexcluded e).card < budget) :
    (∀ k : Skill,
      (s.resolve budget k).run e = some ((s.skillLevel k e).1, e) ∧
        (s.logged budget [] k).Runs e (s.skillLevel k e).1 e
          fun c => c.OnPath e ∧ (c.callers ≠ [] → c.skill.id ∉ e.ids)) ∧
      ∀ (d : SkillDefault) (m : Replacements) (requirePoints ruleOf20 : Bool),
        (d.resolveWith (fun k => return (← s.resolve budget k).level) s m requirePoints
            ruleOf20).run e =
          some ((s.defaultLevel d m requirePoints e ruleOf20).1, e) ∧
        (d.resolveIn (fun k => return (← s.logged budget [] k).level) s m requirePoints
            ruleOf20).Runs e (s.defaultLevel d m requirePoints e ruleOf20).1 e
          fun c => c.OnPath e ∧ c.skill.id ∉ e.ids := by
  constructor
  · intro k
    have hcard : (s.unexcluded (e.insert k.id)).card < budget :=
      (s.card_unexcluded_insert_le e k.id).trans_lt h
    obtain ⟨hrun, hset⟩ := run_resolve hcard
    refine ⟨hrun.trans (congrArg some (Prod.ext rfl hset)), ?_⟩
    exact (s.runs_logged_nil k e hcard).mono fun c hc => ⟨hc.1, hc.2.1⟩
  · intro d m requirePoints ruleOf20
    refine ⟨?_, s.runs_resolveIn_logged d m requirePoints ruleOf20 e h.le⟩
    rw [defaultLevel_eq]
    refine SkillDefault.run_resolveWith fun k hk => ?_
    obtain ⟨hrun, hset⟩ := run_resolve (s := s) (k := k) (e := e)
      ((s.card_unexcluded_insert_le e k.id).trans_lt h)
    simp [hrun, hset, levelExcluding]

/-- The skill itself is excluded from the start, and stays so. -/
theorem ringSheet_restores_excluded :
    ((((ringSheet.logged 4 [] ringBroadsword).run (.ofList [⟨3⟩])).run []).map
        fun r => r.2.map fun c => (c.skill.id.number, c.excluded.ids.map (·.number))) =
      some [(3, [3]), (1, [3]), (2, [1, 3]), (2, [3]), (1, [2, 3])] ∧
      (ringSheet.resolve 4 ringBroadsword).run (.ofList [⟨3⟩]) =
        some ((ringSheet.skillLevel ringBroadsword (.ofList [⟨3⟩])).1, .ofList [⟨3⟩]) :=
  ⟨by decide,
    ((search_restores_excluded ringSheet (.ofList [⟨3⟩]) (by decide)).1 ringBroadsword).1⟩

end Sheet

end CharacterSheet
