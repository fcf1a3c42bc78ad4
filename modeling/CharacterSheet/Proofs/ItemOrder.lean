import Mathlib.Algebra.Order.BigOperators.Group.List
import Mathlib.Algebra.Order.Group.Nat
import Mathlib.Data.Multiset.Bind
import CharacterSheet.Proofs.AttributeLookup
import CharacterSheet.Proofs.BonusLookup
import CharacterSheet.Proofs.DefaultChains
import CharacterSheet.Proofs.ItemIds
import CharacterSheet.Proofs.SpellLookup

/-!
# The order of items

Items stand on a sheet in some order, and so do the contents of a container, the defaults of a skill
and the features of an item. `Sheet.Reordered` relates two sheets that differ in such orders only,
and `Sheet.recalculate_of_reordered` proves that attributes and levels come out the same on both.

Orders show in two places on the way. Bonuses are added up in the order in which they were filed,
and a sum that ends at a bound depends on it; so the sheets are compared under the condition that
the bonuses stay in range together. And the search for a level tries defaults and skills in order;
it takes the best of them, and leaves the exclusions as they were before it tries the next one.
-/

namespace CharacterSheet

/-! ### Lists whose elements are related up to order -/

section Rel

variable {α β γ : Type} {R : α → β → Prop} {l : List α} {l' : List β}

theorem perm_map_of_rel {f : α → γ} {g : β → γ} (h : Multiset.Rel (fun a b => f a = g b) l l') :
    (l.map f).Perm (l'.map g) := by
  rw [← Multiset.coe_eq_coe, ← Multiset.map_coe, ← Multiset.map_coe, ← Multiset.rel_eq,
    Multiset.rel_map]
  exact h

theorem perm_flatMap_of_rel (h : Multiset.Rel R l l') {f : α → List γ} {g : β → List γ}
    (hfg : ∀ a b, R a b → (f a).Perm (g b)) : (l.flatMap f).Perm (l'.flatMap g) := by
  have hparts (a : α) (b : β) (hab : R a b) : Multiset.Rel (· = ·) (f a : Multiset γ) (g b) :=
    Multiset.rel_eq.2 (Multiset.coe_eq_coe.2 (hfg a b hab))
  have hbind := Multiset.rel_bind (f := fun a => (f a : Multiset γ)) hparts h
  rwa [Multiset.rel_eq, Multiset.coe_bind, Multiset.coe_bind, Multiset.coe_eq_coe] at hbind

/-- Scans that agree on related elements select related elements. -/
theorem rel_filter (h : Multiset.Rel R l l') {p : α → Bool} {q : β → Bool}
    (hpq : ∀ a b, R a b → p a = q b) : Multiset.Rel R (l.filter p) (l'.filter q) := by
  have hfilter (m : Multiset α) (n : Multiset β) (h : Multiset.Rel R m n) :
      Multiset.Rel R (m.filter (p · = true)) (n.filter (q · = true)) := by
    induction h with
    | zero => exact .zero
    | @cons a b m n hab _ ih =>
        have hagree := hpq a b hab
        cases hp : p a with
        | true =>
            rw [Multiset.filter_cons_of_pos m hp, Multiset.filter_cons_of_pos n (hagree ▸ hp)]
            exact .cons hab ih
        | false =>
            have hq : q b = false := hagree ▸ hp
            rw [Multiset.filter_cons_of_neg m (by simp [hp]),
              Multiset.filter_cons_of_neg n (by simp [hq])]
            exact ih
  simpa only [Multiset.filter_coe, Bool.decide_eq_true] using hfilter l l' h

/-- The best of related values is the same in any order. -/
theorem foldl_max_eq_of_rel [LinearOrder γ] {f : α → γ} {g : β → γ}
    (h : Multiset.Rel (fun a b => f a = g b) l l') (start : γ) :
    (l.map f).foldl max start = (l'.map g).foldl max start :=
  (perm_map_of_rel h).foldl_eq start

/-- If ids are different, related elements are found by their ids. -/
theorem rel_find?_of_rel {idOf : α → ItemId} {idOf' : β → ItemId} (h : Multiset.Rel R l l')
    (hid : ∀ a b, R a b → idOf a = idOf' b) (hnodup : (l.map idOf).Nodup) (id : ItemId) :
    Option.Rel R (l.find? (idOf · == id)) (l'.find? (idOf' · == id)) := by
  have hids : (l.map idOf).Perm (l'.map idOf') :=
    perm_map_of_rel (h.mono fun a _ b _ hab => hid a b hab)
  cases hfind : l.find? (idOf · == id) with
  | none =>
      have hnone : l'.find? (idOf' · == id) = none := by
        refine List.find?_eq_none.2 fun b hb hb' => ?_
        have hmem : idOf' b ∈ l.map idOf := hids.mem_iff.2 (List.mem_map_of_mem hb)
        obtain ⟨a, ha, hab⟩ := List.mem_map.1 hmem
        exact List.find?_eq_none.1 hfind a ha (by simpa [hab] using hb')
      rw [hnone]
      exact .none
  | some a =>
      have ha := List.find?_some hfind
      rw [beq_iff_eq] at ha
      obtain ⟨b, hb, hab⟩ := Multiset.exists_mem_of_rel_of_mem h (List.mem_of_find?_eq_some hfind)
      have hsome := ItemId.find?_of_mem (hids.nodup_iff.1 hnodup) hb
      rw [← hid a b hab, ha] at hsome
      rw [hsome]
      exact .some hab

end Rel

/-! ### Items and sheets in another order -/

/-- The trait with its features in another order. -/
def Trait.Reordered (t t' : Trait) : Prop :=
  ∃ features, t.features.Perm features ∧ t' = { t with features }

/-- The skill with its defaults and features in another order. -/
def Skill.Reordered (k k' : Skill) : Prop :=
  ∃ defaults features,
    k.defaults.Perm defaults ∧ k.features.Perm features ∧ k' = { k with defaults, features }

/-- The piece with its features in another order, apart from its contents. -/
def Gear.Reordered (g g' : Gear) : Prop :=
  ∃ features, g.features.Perm features ∧ g' = { g with features }

namespace Equipment

mutual

/-- The piece with its features and contents in another order, at every depth. -/
def Reordered : Equipment → Equipment → Prop
  | ⟨gear, children⟩, e => gear.Reordered e.toGear ∧ ReorderedAll children e.children
termination_by structural e => e

def ReorderedAll : List Equipment → List Equipment → Prop
  | [], es => es = []
  | e :: rest, es =>
    ∃ e' rest', es.Perm (e' :: rest') ∧ Reordered e e' ∧ ReorderedAll rest rest'
termination_by structural es => es

end

end Equipment

/-- The second sheet differs from the first only in the order of items and of what they contain,
and in the order of defaults and features. -/
structure Sheet.Reordered (s t : Sheet) : Prop where
  traits : Multiset.Rel Trait.Reordered s.traits t.traits
  skills : Multiset.Rel Skill.Reordered s.skills t.skills
  spells : s.spells.Perm t.spells
  equipment : Equipment.ReorderedAll s.equipment t.equipment
  others : t = { s with
    traits := t.traits, skills := t.skills, spells := t.spells, equipment := t.equipment }

/-! ### Bonuses -/

theorem Trait.Reordered.bonuses_perm {t t' : Trait} (h : t.Reordered t') :
    t.bonuses.Perm t'.bonuses := by
  obtain ⟨features, hfeatures, rfl⟩ := h
  exact hfeatures.map _

theorem Skill.Reordered.bonuses_perm {k k' : Skill} (h : k.Reordered k') :
    k.bonuses.Perm k'.bonuses := by
  obtain ⟨defaults, features, -, hfeatures, rfl⟩ := h
  exact hfeatures.map _

theorem Gear.Reordered.bonuses_perm {g g' : Gear} (h : g.Reordered g') :
    g.bonuses.Perm g'.bonuses := by
  obtain ⟨features, hfeatures, rfl⟩ := h
  exact hfeatures.map _

namespace Equipment

/-- Each piece is active or not whatever its place is. -/
theorem activeAll_perm_activeAll {es fs : List Equipment} (h : es.Perm fs) :
    (activeAll es).Perm (activeAll fs) := by
  have hpieces (es : List Equipment) : (activeAll es).Perm (es.flatMap active) := by
    induction es with
    | nil => exact .nil
    | cons e rest ih =>
        rw [activeAll, List.flatMap_cons]
        exact List.perm_append_comm.trans (ih.append_left _)
  exact (hpieces es).trans ((h.flatMap_right _).trans (hpieces fs).symm)

mutual

/-- In another order the active pieces grant the same bonuses. -/
theorem bonuses_active_perm :
    ∀ e e' : Equipment, Reordered e e' →
      ((active e).flatMap (·.toGear.bonuses)).Perm ((active e').flatMap (·.toGear.bonuses))
  | ⟨gear, children⟩, ⟨gear', children'⟩, ⟨hgear, hchildren⟩ => by
      have hown := hgear.bonuses_perm
      have hinside := bonuses_activeAll_perm children children' hchildren
      obtain ⟨features, -, rfl⟩ := hgear
      cases hequipped : gear.equipped with
      | true => simpa [active, hequipped] using hown.append hinside
      | false => simp [active, hequipped]

theorem bonuses_activeAll_perm :
    ∀ es fs : List Equipment, ReorderedAll es fs →
      ((activeAll es).flatMap (·.toGear.bonuses)).Perm
        ((activeAll fs).flatMap (·.toGear.bonuses))
  | [], _, rfl => .nil
  | e :: rest, fs, ⟨e', rest', hperm, he, hrest⟩ => by
      have hparts := (bonuses_activeAll_perm rest rest' hrest).append (bonuses_active_perm e e' he)
      have hplaces := (activeAll_perm_activeAll hperm.symm).flatMap_right (·.toGear.bonuses)
      refine List.Perm.trans ?_ hplaces
      simpa only [activeAll, List.flatMap_append] using hparts

end

end Equipment

namespace Bonus

theorem magnitude_filter_le (bs : List Bonus) (p : Bonus → Bool) :
    magnitude (bs.filter p) ≤ magnitude bs :=
  (List.filter_sublist.map _).sum_le_sum fun _ _ => Nat.zero_le _

/-- Bonuses in range add up to the same in any order. -/
theorem sum_amount_perm {bs bs' : List Bonus} (h : bs.Perm bs')
    (hrange : magnitude bs ≤ Fixed.highest.raw.natAbs) :
    Fixed.sum (bs'.map amount) = Fixed.sum (bs.map amount) := by
  apply Fixed.ext
  rw [raw_sum_amount hrange, raw_sum_amount (magnitude_perm h ▸ hrange), exactSum_perm h]

end Bonus

/-- A query that finds what a scan finds gives the same sum if the bonuses were filed in another
order. -/
theorem BonusTable.sum_amount_query (query : BonusTable → List Bonus) {p : Bonus → Bool}
    (hquery : ∀ bs, (query (ofList bs)).Perm (bs.filter p)) {bs bs' : List Bonus}
    (h : bs.Perm bs') (hrange : Bonus.magnitude bs ≤ Fixed.highest.raw.natAbs) :
    Fixed.sum ((query (ofList bs')).map Bonus.amount) =
      Fixed.sum ((query (ofList bs)).map Bonus.amount) := by
  have hfound : (query (ofList bs)).Perm (query (ofList bs')) :=
    (hquery bs).trans ((h.filter p).trans (hquery bs').symm)
  refine Bonus.sum_amount_perm hfound ?_
  calc Bonus.magnitude (query (ofList bs))
      = Bonus.magnitude (bs.filter p) := Bonus.magnitude_perm (hquery bs)
    _ ≤ Bonus.magnitude bs := Bonus.magnitude_filter_le bs p
    _ ≤ Fixed.highest.raw.natAbs := hrange

/-- Levels with the same numbers; the tooltips may have the bonuses in another order. -/
def Level.SameNumbers (l l' : Level) : Prop := l.level = l'.level ∧ l.relative = l'.relative

/-- Bonuses that add up to the same lead to the same numbers. -/
theorem Sheet.sameNumbers_withBonuses {s t : Sheet} {bs bs' : List Bonus}
    (h : Fixed.sum (bs.map Bonus.amount) = Fixed.sum (bs'.map Bonus.amount)) (level score : Fixed) :
    (s.withBonuses bs level score).SameNumbers (t.withBonuses bs' level score) := by
  have hlevel : (s.withBonuses bs level score).level = (t.withBonuses bs' level score).level := by
    rw [withBonuses_level, withBonuses_level, h]
  exact ⟨hlevel, congrArg (relativeTo · score) hlevel⟩

namespace Sheet.Reordered

variable {s t : Sheet}

theorem settings_eq (h : s.Reordered t) : t.gatherBonuses.settings = s.gatherBonuses.settings := by
  rw [h.others]
  rfl

/-- In another order a sheet grants the same bonuses. -/
theorem grantedBonuses_perm (h : s.Reordered t) : s.grantedBonuses.Perm t.grantedBonuses := by
  rw [grantedBonuses_eq, grantedBonuses_eq]
  refine (List.Perm.append ?_ ?_).append ?_
  · have hactive : Multiset.Rel Trait.Reordered (s.traits.filter (!·.disabled))
        (t.traits.filter (!·.disabled)) := by
      refine rel_filter h.traits fun t t' ht => ?_
      obtain ⟨features, -, rfl⟩ := ht
      rfl
    exact perm_flatMap_of_rel hactive fun _ _ => Trait.Reordered.bonuses_perm
  · exact perm_flatMap_of_rel h.skills fun _ _ => Skill.Reordered.bonuses_perm
  · exact Equipment.bonuses_activeAll_perm s.equipment t.equipment h.equipment

/-- The skills that a default names are the same. -/
theorem rel_candidates (h : s.Reordered t) (d : SkillDefault) (m : Replacements)
    (requirePoints : Bool) (e : ExclusionSet) :
    Multiset.Rel Skill.Reordered (d.candidates s m requirePoints e)
      (d.candidates t m requirePoints e) := by
  refine rel_filter h.skills fun k k' hk => ?_
  obtain ⟨defaults, features, -, -, rfl⟩ := hk
  rfl

section InRange

variable (h : s.Reordered t) (hrange : Bonus.magnitude s.grantedBonuses ≤ Fixed.highest.raw.natAbs)
include h hrange

/-! ### Attributes and dodge -/

theorem attributeCurrent_eq (id : String) :
    t.gatherBonuses.attributeCurrent id = s.gatherBonuses.attributeCurrent id := by
  have hattributes : t.attributes = s.attributes := by rw [h.others]
  have hsum := BonusTable.sum_amount_query (·.attributeBonuses (BonusKey.normalize id) .none)
    (fun bs => .of_eq (BonusTable.attributeBonuses_eq_filter bs _ _)) h.grantedBonuses_perm hrange
  simp only [attributeCurrent, bonusTotal, Bonus.total_fst, gatherBonuses, hattributes, hsum]

theorem dodge_eq (encumbrance : Encumbrance) :
    t.gatherBonuses.dodge encumbrance = s.gatherBonuses.dodge encumbrance := by
  have hbonus : t.gatherBonuses.dodgeBonus = s.gatherBonuses.dodgeBonus := by
    rw [h.others]
    rfl
  rw [dodge, dodge, h.attributeCurrent_eq hrange, hbonus]

/-! ### Levels -/

theorem attributeLevel_eq (d : SkillDefault) (id : String) (ruleOf20 : Bool) :
    d.attributeLevel t.gatherBonuses id ruleOf20 =
      d.attributeLevel s.gatherBonuses id ruleOf20 := by
  unfold SkillDefault.attributeLevel
  rw [h.attributeCurrent_eq hrange, h.settings_eq]

theorem dodgeLevel_eq (d : SkillDefault) (ruleOf20 : Bool) :
    d.dodgeLevel t.gatherBonuses ruleOf20 = d.dodgeLevel s.gatherBonuses ruleOf20 := by
  have hencumbrance : t.gatherBonuses.encumbrance = s.gatherBonuses.encumbrance := by
    rw [h.others]
    rfl
  unfold SkillDefault.dodgeLevel
  rw [hencumbrance, h.dodge_eq hrange]

/-- A default gives the same if the skills that it names have the same levels. -/
theorem levelFrom_eq {f g : Skill → Fixed} {e : ExclusionSet}
    (hfg : ∀ k ∈ s.skills, k.id ∉ e.ids → ∀ k', k.Reordered k' → f k = g k') (d : SkillDefault)
    (m : Replacements) (requirePoints ruleOf20 : Bool) :
    d.levelFrom f s.gatherBonuses m requirePoints ruleOf20 e =
      d.levelFrom g t.gatherBonuses m requirePoints ruleOf20 e := by
  have hdefault : d.onSkill t.gatherBonuses = d.onSkill s.gatherBonuses := by
    rw [h.others]
    rfl
  have hlevels : Multiset.Rel (fun k k' => f k = g k')
      (d.candidates s.gatherBonuses m requirePoints e)
      (d.candidates t.gatherBonuses m requirePoints e) := by
    refine (h.rel_candidates d m requirePoints e).mono fun k hk k' _ hreordered => ?_
    obtain ⟨hmem, -, hfree, -⟩ := SkillDefault.mem_candidates.1 (Multiset.mem_coe.1 hk)
    exact hfg k hmem hfree k' hreordered
  cases hbase : d.base with
  | dodge =>
      simp only [SkillDefault.levelFrom, SkillDefault.fastLevel, hbase, h.dodgeLevel_eq hrange]
  | ofAttribute id =>
      simp only [SkillDefault.levelFrom, SkillDefault.fastLevel, hbase, h.attributeLevel_eq hrange]
  | skill | parry | block =>
      simp only [SkillDefault.levelFrom, hbase, hdefault, foldl_max_eq_of_rel hlevels]

theorem skillBonus_eq {k k' : Skill} (hk : k.Reordered k') :
    t.gatherBonuses.skillBonus k' = s.gatherBonuses.skillBonus k := by
  obtain ⟨defaults, features, -, -, rfl⟩ := hk
  exact BonusTable.sum_amount_query
    (·.skillBonuses k.displayName k.displaySpecialization k.tags)
    (fun bs => BonusTable.lookup_perm bs (.skill _ _ _)) h.grantedBonuses_perm hrange

/-- The best level before bonuses is the same if that is true of the levels of other skills. -/
theorem bestFrom_eq {f g : Skill → Fixed} {e : ExclusionSet}
    (hfg : ∀ o ∈ s.skills, o.id ∉ e.ids → ∀ o', o.Reordered o' → f o = g o') {k k' : Skill}
    (hk : k.Reordered k') : s.gatherBonuses.bestFrom f k e = t.gatherBonuses.bestFrom g k' e := by
  obtain ⟨defaults, features, hdefaults, -, rfl⟩ := hk
  simp only [bestFrom, scoreOf, h.settings_eq, h.attributeCurrent_eq hrange,
    ← h.levelFrom_eq hrange hfg]
  exact (hdefaults.map _).foldl_eq _

/-- Levels while skills are excluded. Both searches try the same, in one order or another, and what
is excluded when a nested call is made does not depend on the order either. -/
theorem levelExcluding_reordered (n : Nat) :
    ∀ (k : Skill) (e : ExclusionSet), (s.unexcluded (e.insert k.id)).card < n →
      ∀ k', k.Reordered k' →
        s.gatherBonuses.levelExcluding e k = t.gatherBonuses.levelExcluding e k' := by
  induction n with
  | zero =>
      intro k e hcard
      exact absurd hcard (Nat.not_lt_zero _)
  | succ n ih =>
      intro k e hcard k' hk
      have hid : k'.id = k.id := by
        obtain ⟨defaults, features, -, -, rfl⟩ := hk
        rfl
      have hnested : ∀ o ∈ s.skills, o.id ∉ (e.insert k.id).ids → ∀ o', o.Reordered o' →
          s.gatherBonuses.levelExcluding (e.insert k.id) o =
            t.gatherBonuses.levelExcluding (e.insert k.id) o' := by
        intro o ho hfree
        have hless := card_unexcluded_insert_lt ho hfree
        exact ih o (e.insert k.id) (by omega)
      rw [levelExcluding_eq, levelExcluding_eq, withSkillBonus, withSkillBonus,
        h.skillBonus_eq hrange hk, hid, h.bestFrom_eq hrange hnested hk]

theorem skillLevel_reordered {k k' : Skill} (hk : k.Reordered k') (e : ExclusionSet) :
    (s.gatherBonuses.skillLevel k e).1.SameNumbers (t.gatherBonuses.skillLevel k' e).1 := by
  have hbest :
      s.gatherBonuses.bestFrom (s.gatherBonuses.levelExcluding (e.insert k.id)) k (e.insert k.id) =
        t.gatherBonuses.bestFrom (t.gatherBonuses.levelExcluding (e.insert k.id)) k'
          (e.insert k.id) := by
    refine h.bestFrom_eq hrange (fun o _ _ o' ho => ?_) hk
    exact h.levelExcluding_reordered hrange _ o _ (Nat.lt_succ_self _) o' ho
  have hbonus := h.skillBonus_eq hrange hk
  obtain ⟨defaults, features, -, -, rfl⟩ := hk
  rw [skillLevel_eq, skillLevel_eq, finished, finished, scoreOf, scoreOf,
    h.attributeCurrent_eq hrange, ← hbest]
  exact sameNumbers_withBonuses hbonus.symm _ _

theorem spellLevel_reordered (p : Spell) :
    (s.gatherBonuses.spellLevel p).SameNumbers (t.gatherBonuses.spellLevel p) := by
  have hbonus := BonusTable.sum_amount_query
    (·.spellBonuses p.displayName p.displayCollege p.displayPowerSource p.tags)
    (fun bs => BonusTable.spellBonuses_perm bs _ _ _ _) h.grantedBonuses_perm hrange
  rw [spellLevel, spellLevel, h.attributeCurrent_eq hrange]
  exact sameNumbers_withBonuses hbonus.symm _ _

end InRange

end Sheet.Reordered

/-! ### Recalculation -/

/-- The skills are the same up to order and up to what recalculation writes, and what it writes to
them are levels with the same numbers. -/
structure Skill.LeveledLike (k k' : Skill) : Prop where
  reordered : (ItemMap.forgetDerived.skill k).Reordered (ItemMap.forgetDerived.skill k')
  level : k.level.SameNumbers k'.level

-- Stated for any levels: with computed levels in their place, comparing the skills by definition
-- would carry out the searches of both sheets.

/-- What recalculation writes is forgotten when skills and spells are compared. -/
theorem Skill.Reordered.written {k k' : Skill} (h : k.Reordered k') (level level' : Level)
    (reason reason' : Option String) :
    (ItemMap.forgetDerived.skill { k with level, unsatisfiedReason := reason }).Reordered
      (ItemMap.forgetDerived.skill
        { k' with level := level', unsatisfiedReason := reason' }) := by
  obtain ⟨defaults, features, hdefaults, hfeatures, rfl⟩ := h
  exact ⟨defaults, features, hdefaults, hfeatures, rfl⟩

theorem Spell.written_eq (p : Spell) (level level' : Level) (reason reason' : Option String) :
    ItemMap.forgetDerived.spell { p with level, unsatisfiedReason := reason } =
      ItemMap.forgetDerived.spell { p with level := level', unsatisfiedReason := reason' } := rfl

/-- The spells are the same up to what recalculation writes, and what it writes to them are levels
with the same numbers. -/
structure Spell.LeveledLike (p p' : Spell) : Prop where
  same : ItemMap.forgetDerived.spell p = ItemMap.forgetDerived.spell p'
  level : p.level.SameNumbers p'.level

namespace Sheet

variable {s t : Sheet}

/-- Recalculated attributes rest on the bonuses that were gathered. -/
theorem attributeCurrent_recalculate (s : Sheet) (id : String) :
    s.recalculate.attributeCurrent id = s.gatherBonuses.attributeCurrent id := by
  simp only [attributeCurrent, bonusTotal, Bonus.total_fst]
  rfl

/-- What recalculation makes of a skill. -/
theorem skills_recalculate (s : Sheet) :
    s.recalculate.skills = s.skills.map fun k =>
      { k with
        level := (s.gatherBonuses.skillLevel k .empty).1
        unsatisfiedReason := s.leveled.unsatisfiedReason k.prereqs k.id } := by
  simp only [recalculate_eq, leveled, updateReasons, mapItems, List.map_map]
  rfl

/-- What recalculation makes of a spell. -/
theorem spells_recalculate (s : Sheet) :
    s.recalculate.spells = s.spells.map fun p =>
      { p with
        level := s.gatherBonuses.spellLevel p
        unsatisfiedReason := s.leveled.unsatisfiedReason p.prereqs p.id } := by
  simp only [recalculate_eq, leveled, updateReasons, mapItems, List.map_map]
  rfl

theorem Reordered.rel_skills_recalculate (h : s.Reordered t)
    (hrange : Bonus.magnitude s.grantedBonuses ≤ Fixed.highest.raw.natAbs) :
    Multiset.Rel Skill.LeveledLike s.recalculate.skills t.recalculate.skills := by
  rw [skills_recalculate, skills_recalculate, ← Multiset.map_coe, ← Multiset.map_coe,
    Multiset.rel_map]
  exact h.skills.mono fun k _ k' _ hk =>
    ⟨hk.written _ _ _ _, h.skillLevel_reordered hrange hk .empty⟩

theorem Reordered.rel_spells_recalculate (h : s.Reordered t)
    (hrange : Bonus.magnitude s.grantedBonuses ≤ Fixed.highest.raw.natAbs) :
    Multiset.Rel Spell.LeveledLike s.recalculate.spells t.recalculate.spells := by
  have hsame := Multiset.rel_eq.2 (Multiset.coe_eq_coe.2 h.spells)
  rw [spells_recalculate, spells_recalculate, ← Multiset.map_coe, ← Multiset.map_coe,
    Multiset.rel_map]
  refine hsame.mono fun p _ p' _ hp => ?_
  subst hp
  exact ⟨p.written_eq _ _ _ _, h.spellLevel_reordered hrange p⟩

/-- **The order of items makes no difference to levels.** If the absolute amounts of the bonuses
stay in range together, a sheet with its items, their contents, defaults and features in another
order has the same attributes after recalculation, and skill by skill and spell by spell the same
levels. So if ids are different, the level under an id is the same. -/
theorem recalculate_of_reordered (h : s.Reordered t)
    (hrange : Bonus.magnitude s.grantedBonuses ≤ Fixed.highest.raw.natAbs) :
    (∀ id, t.recalculate.attributeCurrent id = s.recalculate.attributeCurrent id) ∧
    Multiset.Rel Skill.LeveledLike s.recalculate.skills t.recalculate.skills ∧
    Multiset.Rel Spell.LeveledLike s.recalculate.spells t.recalculate.spells ∧
    ((s.skills.map (·.id)).Nodup → ∀ id,
      Option.Rel Skill.LeveledLike (s.recalculate.skill? id) (t.recalculate.skill? id)) ∧
    ((s.spells.map (·.id)).Nodup → ∀ id,
      Option.Rel Spell.LeveledLike (s.recalculate.spell? id) (t.recalculate.spell? id)) := by
  have hskills := h.rel_skills_recalculate hrange
  have hspells := h.rel_spells_recalculate hrange
  refine ⟨fun id => ?_, hskills, hspells, fun hids id => ?_, fun hids id => ?_⟩
  · rw [attributeCurrent_recalculate, attributeCurrent_recalculate, h.attributeCurrent_eq hrange]
  · have hnodup : (s.recalculate.skills.map (·.id)).Nodup := by
      rwa [skills_recalculate, List.map_map]
    refine rel_find?_of_rel hskills (fun k k' hk => ?_) hnodup id
    obtain ⟨defaults, features, -, -, hk⟩ := hk.reordered
    exact (congrArg Skill.id hk).symm
  · have hnodup : (s.recalculate.spells.map (·.id)).Nodup := by
      rwa [spells_recalculate, List.map_map]
    exact rel_find?_of_rel hspells (fun p p' hp => congrArg Spell.id hp.same) hnodup id

end Sheet

/-! ### All orders turned around -/

namespace Equipment

mutual

/-- The piece with its features and contents in the opposite order, at every depth. -/
def turned : Equipment → Equipment
  | ⟨gear, children⟩ => ⟨{ gear with features := gear.features.reverse }, turnedAll children⟩
termination_by structural e => e

def turnedAll : List Equipment → List Equipment
  | [] => []
  | e :: rest => turnedAll rest ++ [turned e]
termination_by structural es => es

end

mutual

theorem reordered_turned : ∀ e : Equipment, Reordered e (turned e)
  | ⟨gear, children⟩ =>
      ⟨⟨_, (List.reverse_perm gear.features).symm, rfl⟩, reorderedAll_turnedAll children⟩

theorem reorderedAll_turnedAll : ∀ es : List Equipment, ReorderedAll es (turnedAll es)
  | [] => rfl
  | e :: rest =>
      ⟨turned e, turnedAll rest, List.perm_append_comm, reordered_turned e,
        reorderedAll_turnedAll rest⟩

end

end Equipment

namespace Sheet

/-- The sheet with everything in the opposite order. -/
def turned (s : Sheet) : Sheet :=
  { s with
    traits := (s.traits.map fun t => { t with features := t.features.reverse }).reverse
    skills := (s.skills.map fun k =>
      { k with defaults := k.defaults.reverse, features := k.features.reverse }).reverse
    spells := s.spells.reverse
    equipment := Equipment.turnedAll s.equipment }

theorem reordered_turned (s : Sheet) : s.Reordered s.turned where
  traits := by
    rw [turned, Multiset.coe_reverse, ← Multiset.map_coe, Multiset.rel_map_right]
    refine Multiset.rel_refl_of_refl_on fun t _ => ?_
    exact ⟨_, (List.reverse_perm t.features).symm, rfl⟩
  skills := by
    rw [turned, Multiset.coe_reverse, ← Multiset.map_coe, Multiset.rel_map_right]
    refine Multiset.rel_refl_of_refl_on fun k _ => ?_
    exact ⟨_, _, (List.reverse_perm k.defaults).symm, (List.reverse_perm k.features).symm, rfl⟩
  spells := (List.reverse_perm s.spells).symm
  equipment := Equipment.reorderedAll_turnedAll s.equipment
  others := rfl

/-- A sheet with bonuses from two traits and from a ring in a box, two skills in a loop, of which
one has two defaults, and two spells. -/
def campSheet : Sheet where
  attributes := (KeyMap.empty.insert "dx" { name := "Dexterity", base := 12 }).insert "iq"
    { name := "Intelligence", base := 11 }
  traits := [
    { id := ⟨1⟩, name := "Keen"
      features := [.skillBonus (.named "Knife"), .attributeBonus { attributeId := "dx" }] },
    { id := ⟨2⟩, name := "Studious", levels := some 2
      features := [.attributeBonus { attributeId := "iq", amount := .each 1 }] }]
  skills := [
    { id := ⟨3⟩, name := "Knife", difficulty := ⟨"dx", .easy⟩
      defaults := [.toSkill "Shortsword" (-3), .toId "dx" (-4)] },
    { id := ⟨4⟩, name := "Shortsword", difficulty := ⟨"dx", .average⟩, points := 4
      defaults := [.toSkill "Knife" (-3)] }]
  spells := [
    { id := ⟨5⟩, name := "Light", difficulty := ⟨"iq", .hard⟩, points := 1 },
    { id := ⟨6⟩, name := "Darkness", difficulty := ⟨"iq", .veryHard⟩, points := 4 }]
  equipment := [
    { id := ⟨7⟩, name := "Box"
      children := [
        { id := ⟨8⟩, name := "Ring", features := [.attributeBonus { attributeId := "dx" }] },
        { id := ⟨9⟩, name := "Coin" }] }]

theorem campSheet_recalculate :
    Bonus.magnitude campSheet.grantedBonuses ≤ Fixed.highest.raw.natAbs ∧
      campSheet.recalculate.skills.map (fun k => (k.id.number, k.level.level)) =
        [(3, 13), (4, 15)] ∧
      campSheet.turned.recalculate.skills.map (fun k => (k.id.number, k.level.level)) =
        [(4, 15), (3, 13)] ∧
      campSheet.turned.recalculate.attributeCurrent "dx" = 14 ∧
      (∀ id, Option.Rel Skill.LeveledLike (campSheet.recalculate.skill? id)
        (campSheet.turned.recalculate.skill? id)) ∧
      ∀ id, Option.Rel Spell.LeveledLike (campSheet.recalculate.spell? id)
        (campSheet.turned.recalculate.spell? id) := by
  have hrange : Bonus.magnitude campSheet.grantedBonuses ≤ Fixed.highest.raw.natAbs := by decide
  obtain ⟨-, -, -, hskill, hspell⟩ := recalculate_of_reordered campSheet.reordered_turned hrange
  exact ⟨hrange, by decide, by decide, by decide, hskill (by decide), hspell (by decide)⟩

end Sheet

end CharacterSheet
