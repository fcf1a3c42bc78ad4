import Mathlib.Data.List.Forall2
import CharacterSheet.Proofs.Recalculation
import CharacterSheet.Proofs.DefaultChains

/-!
# Improvement never hurts

More points in skills and spells, and higher base values of attributes, never lower a level:
`levels_le_of_improvesTo`. This is not plain from the search for a level. Points decide which
skills a default may name, attributes stand behind trained levels, attribute defaults and dodge,
and a level that is undefined is passed on as it is.

Every operation on the way keeps the order, and a skill that a default may name before an
improvement may be named after it. The search itself is compared by induction on the skills that
are not excluded yet, with the equation of levels on both sheets.
-/

namespace CharacterSheet

/-! ### Points and scores -/

theorem Fixed.le_add_of_nonneg {a b : Fixed} (h : 0 ≤ b) : a ≤ a + b := by
  have hzero : (0 : Fixed).raw = 0 := rfl
  have hlower := a.lower
  have hupper := a.upper
  rw [le_iff, hzero] at h
  rw [le_iff, raw_add]
  omega

namespace Difficulty

/-- The three ranges of points that give a level. -/
theorem relativeLevel_eq_some {d : Difficulty} {p r : Fixed} :
    d.relativeLevel p = some r ↔
      p = 1 ∧ d.level.baseRelativeLevel = r ∨
        (1 < p ∧ p < 4) ∧ d.level.baseRelativeLevel + 1 = r ∨
          4 ≤ p ∧ d.level.baseRelativeLevel + 1 + (p / 4).trunc = r := by
  have hone : ¬(1 : Fixed) < 1 ∧ ¬(4 : Fixed) ≤ 1 ∧ (1 : Fixed) < 4 := by decide
  unfold relativeLevel
  rcases lt_trichotomy p 1 with h | rfl | h
  · have h4 : p < 4 := h.trans hone.2.2
    simp [h, h.ne, h.not_gt, h4]
  · simp [hone]
  · by_cases h4 : p < 4
    · simp [h, h.ne', h.not_gt, h4]
    · simp [h.ne', h.not_gt, h4, not_lt.1 h4]

/-- More points give no lower level relative to the attribute. -/
theorem relativeLevel_le {d : Difficulty} {p q r : Fixed} (h : p ≤ q)
    (hr : d.relativeLevel p = some r) : ∃ r', d.relativeLevel q = some r' ∧ r ≤ r' := by
  have hquarter : (p / 4).trunc ≤ (q / 4).trunc :=
    Fixed.trunc_le_trunc (Fixed.div_le_div (by decide) h)
  have hfirst : d.level.baseRelativeLevel ≤ d.level.baseRelativeLevel + 1 :=
    Fixed.le_add_of_nonneg (by decide)
  have hmore (hq : 4 ≤ q) :
      d.level.baseRelativeLevel + 1 ≤ d.level.baseRelativeLevel + 1 + (q / 4).trunc := by
    have hzero : (0 : Fixed) ≤ (4 / 4 : Fixed).trunc := by decide
    exact Fixed.le_add_of_nonneg
      (hzero.trans (Fixed.trunc_le_trunc (Fixed.div_le_div (by decide) hq)))
  simp only [relativeLevel_eq_some] at hr ⊢
  rcases hr with ⟨rfl, rfl⟩ | ⟨⟨hp, -⟩, rfl⟩ | ⟨hp, rfl⟩
  · rcases h.eq_or_lt with rfl | hq
    · exact ⟨_, .inl ⟨rfl, rfl⟩, le_rfl⟩
    · rcases lt_or_ge q 4 with hq4 | hq4
      · exact ⟨_, .inr (.inl ⟨⟨hq, hq4⟩, rfl⟩), hfirst⟩
      · exact ⟨_, .inr (.inr ⟨hq4, rfl⟩), hfirst.trans (hmore hq4)⟩
  · rcases lt_or_ge q 4 with hq4 | hq4
    · exact ⟨_, .inr (.inl ⟨⟨hp.trans_le h, hq4⟩, rfl⟩), le_rfl⟩
    · exact ⟨_, .inr (.inr ⟨hq4, rfl⟩), hmore hq4⟩
  · exact ⟨_, .inr (.inr ⟨hp.trans h, rfl⟩), Fixed.add_le_add le_rfl hquarter⟩

end Difficulty

/-- The level that points give grows with the points and with the attribute. -/
theorem Sheet.trainedLevel_le_trainedLevel {d : Difficulty} {p q a b : Fixed} (hpoints : p ≤ q)
    (hscore : a ≤ b) : trainedLevel d p a ≤ trainedLevel d q b := by
  have hdefined (c r : Fixed) :
      (if c.isUndefined then .undefined else c + r) = if c.isUndefined then c else c + r := by
    split
    · next hc => exact (Fixed.isUndefined_iff.1 hc).symm
    · rfl
  unfold trainedLevel
  cases hr : d.relativeLevel p with
  | none => exact Fixed.undefined_le _
  | some r =>
      obtain ⟨r', hr', hle⟩ := Difficulty.relativeLevel_le hpoints hr
      simp only [hr', hdefined]
      exact Fixed.ite_isUndefined_le (fun h => Fixed.add_le_add h hle) hscore

/-! ### Sheets with improvements -/

/-- The attribute with a base value that is no lower. -/
def AttributeScore.RaisedTo (a b : AttributeScore) : Prop :=
  ∃ base, a.base ≤ base ∧ b = { a with base }

/-- The skill with no fewer points. -/
def Skill.RaisedTo (k k' : Skill) : Prop := ∃ points, k.points ≤ points ∧ k' = { k with points }

/-- The spell with no fewer points. -/
def Spell.RaisedTo (p p' : Spell) : Prop := ∃ points, p.points ≤ points ∧ p' = { p with points }

/-- The second sheet differs from the first only in points of skills and spells and in base values
of attributes, none of which is lower. -/
structure Sheet.ImprovesTo (s t : Sheet) : Prop where
  attributes : List.Forall₂ (fun a b => a.1 = b.1 ∧ a.2.RaisedTo b.2) s.attributes.entries
    t.attributes.entries
  skills : List.Forall₂ Skill.RaisedTo s.skills t.skills
  spells : List.Forall₂ Spell.RaisedTo s.spells t.spells
  others : t = { s with attributes := t.attributes, skills := t.skills, spells := t.spells }

theorem exists_mem_of_forall₂ {α β : Type} {R : α → β → Prop} {l : List α} {l' : List β}
    (h : List.Forall₂ R l l') {a : α} (ha : a ∈ l) : ∃ b ∈ l', R a b := by
  induction h with
  | nil => exact absurd ha List.not_mem_nil
  | @cons a' b _ _ hab _ ih =>
      rcases List.mem_cons.1 ha with rfl | ha
      · exact ⟨b, List.mem_cons_self, hab⟩
      · obtain ⟨b', hb', hrel⟩ := ih ha
        exact ⟨b', List.mem_cons_of_mem b hb', hrel⟩

/-- What stands at the same places of two maps with the same keys stands under the same keys. -/
theorem KeyMap.rel_get? {α : Type} {R : α → α → Prop} {m n : KeyMap α}
    (h : List.Forall₂ (fun a b => a.1 = b.1 ∧ R a.2 b.2) m.entries n.entries) (key : String) :
    Option.Rel R (m.get? key) (n.get? key) := by
  unfold get?
  generalize m.entries = es, n.entries = es' at h
  induction h with
  | nil => exact .none
  | @cons a b _ _ hab _ ih =>
      simp only [List.findSome?_cons, ← hab.1]
      by_cases hkey : a.1 = key
      · simpa [hkey] using Option.Rel.some hab.2
      · simpa [hkey] using ih

namespace Sheet.ImprovesTo

variable {s t : Sheet}

theorem settings_eq (h : s.ImprovesTo t) : t.settings = s.settings := by rw [h.others]

theorem bonuses_eq (h : s.ImprovesTo t) : t.bonuses = s.bonuses := by rw [h.others]

/-- Improvements grant no bonuses and take none away. -/
theorem grantedBonuses_eq (h : s.ImprovesTo t) : s.grantedBonuses = t.grantedBonuses := by
  have hskills : s.skills.map Skill.bonuses = t.skills.map Skill.bonuses := by
    rw [← List.forall₂_eq_eq_eq, List.forall₂_map_left_iff, List.forall₂_map_right_iff]
    refine h.skills.imp ?_
    rintro k _ ⟨points, -, rfl⟩
    rfl
  have htraits : t.traits = s.traits := by rw [h.others]
  have hequipment : t.equipment = s.equipment := by rw [h.others]
  rw [Sheet.grantedBonuses_eq, Sheet.grantedBonuses_eq, htraits, hequipment,
    List.flatMap_def (l := s.skills), List.flatMap_def (l := t.skills), hskills]

theorem gatherBonuses (h : s.ImprovesTo t) : s.gatherBonuses.ImprovesTo t.gatherBonuses where
  attributes := h.attributes
  skills := h.skills
  spells := h.spells
  others := by
    rw [Sheet.gatherBonuses, Sheet.gatherBonuses, h.grantedBonuses_eq, h.others]

/-! ### Attributes and dodge -/

theorem attributeCurrent_le (h : s.ImprovesTo t) (id : String) :
    s.attributeCurrent id ≤ t.attributeCurrent id := by
  have hrel := KeyMap.rel_get? h.attributes (BonusKey.normalize id)
  unfold attributeCurrent bonusTotal
  simp only [Bonus.total_fst, h.bonuses_eq]
  generalize s.attributes.get? _ = a, t.attributes.get? _ = b at hrel
  cases hrel with
  | none => exact le_rfl
  | some hraised =>
      obtain ⟨base, hbase, rfl⟩ := hraised
      exact Fixed.add_le_add_right hbase _

theorem dodge_le (h : s.ImprovesTo t) (encumbrance : Encumbrance) :
    s.dodge encumbrance ≤ t.dodge encumbrance := by
  have hbonus : t.dodgeBonus = s.dodgeBonus := by rw [h.others]
  have hspeed : max (s.attributeCurrent speedId) 0 ≤ max (t.attributeCurrent speedId) 0 :=
    max_le_max (h.attributeCurrent_le speedId) le_rfl
  unfold dodge
  rw [hbonus]
  exact max_le_max (Fixed.add_le_add_right (Fixed.add_le_add_right (Fixed.trunc_le_trunc
    (Fixed.add_le_add_right hspeed _)) _) _) le_rfl

/-! ### Levels -/

theorem attributeLevel_le (h : s.ImprovesTo t) (d : SkillDefault) (id : String)
    (ruleOf20 : Bool) : d.attributeLevel s id ruleOf20 ≤ d.attributeLevel t id ruleOf20 := by
  have hcapped {a b : Fixed} (hle : a ≤ b) :
      (if ruleOf20 then min a 20 else a) ≤ (if ruleOf20 then min b 20 else b) := by
    split
    · exact min_le_min hle le_rfl
    · exact hle
  have hhalved {a b : Fixed} (hle : a ≤ b) :
      (if s.settings.halfStatDefaults then (a / 2).trunc + 5 else a) ≤
        (if s.settings.halfStatDefaults then (b / 2).trunc + 5 else b) := by
    split
    · exact Fixed.add_le_add_right (Fixed.trunc_le_trunc (Fixed.div_le_div (by decide) hle)) _
    · exact hle
  unfold SkillDefault.attributeLevel
  rw [h.settings_eq]
  exact Fixed.ite_isUndefined_le (fun hle => d.modified_le_modified (hhalved (hcapped hle)))
    (h.attributeCurrent_le id)

theorem dodgeLevel_le (h : s.ImprovesTo t) (d : SkillDefault) (ruleOf20 : Bool) :
    d.dodgeLevel s ruleOf20 ≤ d.dodgeLevel t ruleOf20 := by
  have hencumbrance : t.encumbrance = s.encumbrance := by rw [h.others]
  have hcapped {a b : Fixed} (hle : a ≤ b) :
      (if ruleOf20 && 20 < a then 20 else a) ≤ (if ruleOf20 && 20 < b then 20 else b) := by
    cases ruleOf20 with
    | false => exact hle
    | true =>
        simp only [Bool.true_and, decide_eq_true_eq, ← min_def_lt]
        exact min_le_min le_rfl hle
  unfold SkillDefault.dodgeLevel
  rw [hencumbrance]
  exact d.modified_le_modified (hcapped (h.dodge_le s.encumbrance))

/-- What a default may name before an improvement it may name after it. -/
theorem exists_mem_candidates (h : s.ImprovesTo t) {d : SkillDefault} {m : Replacements}
    {requirePoints : Bool} {e : ExclusionSet} {k : Skill}
    (hk : k ∈ d.candidates s m requirePoints e) :
    ∃ k' ∈ d.candidates t m requirePoints e, k.RaisedTo k' := by
  rw [SkillDefault.mem_candidates] at hk
  obtain ⟨hmem, hname, hfree, hpoints, hspecialization⟩ := hk
  obtain ⟨k', hk', hraised⟩ := exists_mem_of_forall₂ h.skills hmem
  refine ⟨k', SkillDefault.mem_candidates.2 ?_, hraised⟩
  obtain ⟨points, hle, rfl⟩ := hraised
  exact ⟨hk', hname, hfree, fun hrequired => (hpoints hrequired).trans_le hle, hspecialization⟩

/-- A default gives no less if the skills that it names have levels that are no lower. -/
theorem levelFrom_le (h : s.ImprovesTo t) {f g : Skill → Fixed} {e : ExclusionSet}
    (hfg : ∀ k ∈ s.skills, k.id ∉ e.ids → ∀ k', k.RaisedTo k' → f k ≤ g k') (d : SkillDefault)
    (m : Replacements) (requirePoints ruleOf20 : Bool) :
    d.levelFrom f s m requirePoints ruleOf20 e ≤ d.levelFrom g t m requirePoints ruleOf20 e := by
  by_cases hbase : d.isSkillBased = true
  · have hparry : t.parryBonus = s.parryBonus := by rw [h.others]
    have hblock : t.blockBonus = s.blockBonus := by rw [h.others]
    have hdefault : d.onSkill t = d.onSkill s := by
      unfold SkillDefault.onSkill
      rw [hparry, hblock]
    rw [SkillDefault.levelFrom_of_isSkillBased hbase,
      SkillDefault.levelFrom_of_isSkillBased hbase, hdefault]
    refine d.onSkill_le_onSkill s (foldl_max_le_of_forall_exists le_rfl fun k hk => ?_)
    obtain ⟨k', hk', hraised⟩ := h.exists_mem_candidates hk
    obtain ⟨hmem, -, hfree, -⟩ := SkillDefault.mem_candidates.1 hk
    exact ⟨k', hk', hfg k hmem hfree k' hraised⟩
  · unfold SkillDefault.levelFrom SkillDefault.fastLevel
    unfold SkillDefault.isSkillBased DefaultBase.isSkillBased at hbase
    revert hbase
    cases d.base with
    | dodge => exact fun _ => h.dodgeLevel_le d ruleOf20
    | ofAttribute id => exact fun _ => h.attributeLevel_le d id ruleOf20
    | skill | parry | block => exact fun hbase => absurd rfl hbase

theorem withSkillBonus_eq (h : s.ImprovesTo t) {k k' : Skill} (hk : k.RaisedTo k') :
    t.withSkillBonus k' = s.withSkillBonus k := by
  obtain ⟨points, -, rfl⟩ := hk
  have hskill : t.bonusesToSkill { k with points } = s.bonusesToSkill k := by
    unfold bonusesToSkill
    rw [h.bonuses_eq]
    rfl
  funext level
  rw [withSkillBonus, withSkillBonus, skillBonus, skillBonus, hskill]

/-- Levels while skills are excluded. The search from an improved skill is compared with the search
from the skill before, call by call. -/
theorem levelExcluding_le (h : s.ImprovesTo t) (n : Nat) :
    ∀ (k : Skill) (e : ExclusionSet), (s.unexcluded (e.insert k.id)).card < n →
      ∀ k', k.RaisedTo k' → s.levelExcluding e k ≤ t.levelExcluding e k' := by
  induction n with
  | zero =>
      intro k e hcard
      exact absurd hcard (Nat.not_lt_zero _)
  | succ n ih =>
      intro k e hcard k' hk
      have hbonus := h.withSkillBonus_eq hk
      obtain ⟨points, hpoints, rfl⟩ := hk
      -- An improved skill keeps its id, and so both searches go on with the same exclusions.
      have hnested : ∀ o ∈ s.skills, o.id ∉ (e.insert k.id).ids → ∀ o', o.RaisedTo o' →
          s.levelExcluding (e.insert k.id) o ≤ t.levelExcluding (e.insert k.id) o' := by
        intro o ho hfree
        have hless := card_unexcluded_insert_lt ho hfree
        exact ih o (e.insert k.id) (by omega)
      rw [levelExcluding_eq, levelExcluding_eq, hbonus]
      refine withSkillBonus_le_withSkillBonus (foldl_max_le_foldl_max ?_ fun d _ => ?_)
      · exact trainedLevel_le_trainedLevel hpoints (h.attributeCurrent_le _)
      · rw [h.settings_eq]
        exact h.levelFrom_le hnested d k.replacements true s.settings.ruleOf20

theorem spellLevel_le (h : s.ImprovesTo t) {p p' : Spell} (hp : p.RaisedTo p') :
    (s.spellLevel p).level ≤ (t.spellLevel p').level := by
  obtain ⟨points, hpoints, rfl⟩ := hp
  have hspell : t.bonusesToSpell { p with points } = s.bonusesToSpell p := by
    unfold bonusesToSpell
    rw [h.bonuses_eq]
    rfl
  rw [spellLevel, spellLevel, withBonuses_level, withBonuses_level, hspell]
  exact Fixed.ite_isUndefined_le (fun hle => Fixed.add_le_add_right hle _)
    (trainedLevel_le_trainedLevel hpoints (h.attributeCurrent_le _))

end Sheet.ImprovesTo

namespace Sheet

/-- **Improvement never hurts.** After more points in skills and spells and higher base values of
attributes, no skill and no spell comes to a lower level; a level that is undefined is the lowest
of all. -/
theorem levels_le_of_improvesTo {s t : Sheet} (h : s.ImprovesTo t) :
    List.Forall₂ (fun k k' => k.id = k'.id ∧ k.level.level ≤ k'.level.level) s.recalculate.skills
        t.recalculate.skills ∧
      List.Forall₂ (fun p p' => p.id = p'.id ∧ p.level.level ≤ p'.level.level)
        s.recalculate.spells t.recalculate.spells := by
  have hgather := h.gatherBonuses
  constructor
  · simp only [recalculate_eq, leveled, updateReasons, mapItems, List.forall₂_map_left_iff,
      List.forall₂_map_right_iff]
    refine h.skills.imp fun k k' hk => ⟨?_, ?_⟩
    · obtain ⟨points, -, rfl⟩ := hk
      rfl
    · exact hgather.levelExcluding_le _ k .empty (Nat.lt_succ_self _) k' hk
  · simp only [recalculate_eq, leveled, updateReasons, mapItems, List.forall₂_map_left_iff,
      List.forall₂_map_right_iff]
    refine h.spells.imp fun p p' hp => ⟨?_, ?_⟩
    · obtain ⟨points, -, rfl⟩ := hp
      rfl
    · exact hgather.spellLevel_le hp

/-- A sheet with a loop of two skills, a third that may be used at the block of one of them or at
dodge, and a spell. -/
def shieldSheet (dx speed shieldPoints spellPoints : Fixed) : Sheet where
  attributes :=
    ⟨[("basic_speed", { name := "Basic Speed", base := speed }),
      ("dx", { name := "Dexterity", base := dx }), ("iq", { name := "Intelligence", base := 11 })],
      List.pairwise_map.1
        (by decide : ["basic_speed", "dx", "iq"].Pairwise (· < ·))⟩
  blockBonus := 1
  skills := [
    { id := ⟨1⟩, name := "Shield", difficulty := ⟨"dx", .easy⟩, points := shieldPoints
      defaults := [.toSkill "Buckler" (-2), .toId "dx" (-4)] },
    { id := ⟨2⟩, name := "Buckler", difficulty := ⟨"dx", .easy⟩, points := 1
      defaults := [.toSkill "Shield" (-2)] },
    { id := ⟨3⟩, name := "Cloak", difficulty := ⟨"dx", .average⟩
      defaults := [{ base := .block, name := "Shield", modifier := -1 }, .toId "dodge" (-1)] }]
  spells := [{ id := ⟨4⟩, name := "Light", difficulty := ⟨"iq", .hard⟩, points := spellPoints }]

theorem shieldSheet_improvesTo {dx dx' speed speed' points points' spell spell' : Fixed}
    (hdx : dx ≤ dx') (hspeed : speed ≤ speed') (hpoints : points ≤ points')
    (hspell : spell ≤ spell') :
    (shieldSheet dx speed points spell).ImprovesTo (shieldSheet dx' speed' points' spell') where
  attributes :=
    .cons ⟨rfl, speed', hspeed, rfl⟩
      (.cons ⟨rfl, dx', hdx, rfl⟩ (.cons ⟨rfl, 11, le_rfl, rfl⟩ .nil))
  skills :=
    .cons ⟨points', hpoints, rfl⟩ (.cons ⟨1, le_rfl, rfl⟩ (.cons ⟨0, le_rfl, rfl⟩ .nil))
  spells := .cons ⟨spell', hspell, rfl⟩ .nil
  others := rfl

/-- Without points in the shield the cloak is used at dodge, and without points the spell has no
level. -/
theorem shieldSheet_levels_le :
    (shieldSheet 10 5 0 0).recalculate.skills.map (·.level.level) = [8, 10, 7] ∧
      (shieldSheet 12 6 4 1).recalculate.skills.map (·.level.level) = [14, 12, 10] ∧
      (shieldSheet 10 5 0 0).recalculate.spells.map (·.level.level) = [.undefined] ∧
      List.Forall₂ (fun p p' => p.id = p'.id ∧ p.level.level ≤ p'.level.level)
        (shieldSheet 10 5 0 0).recalculate.spells (shieldSheet 12 6 4 1).recalculate.spells :=
  ⟨by decide, by decide, by decide,
    (levels_le_of_improvesTo
      (shieldSheet_improvesTo (by decide) (by decide) (by decide) (by decide))).2⟩

end Sheet

end CharacterSheet
