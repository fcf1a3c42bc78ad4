import CharacterSheet.Proofs.BonusTable

/-!
# Lookup of bonuses by key

Queries for skills, weapons, hit locations and reactions look at a few buckets of the
table only. This module says which bonuses each query asks for, `BonusQuery.selects`, and
proves that the buckets lead to all of them and to each once, `lookup_perm`. So totals and
tooltips are those of a scan of all bonuses.

Bonuses to skills and weapons select their targets in several ways, each with keys of its
own. A `KeyedSearch` has the ways and the keys together with the proof that what a query
asks for is filed under them, so that one lemma, `found_ofList`, covers these queries.
-/

namespace CharacterSheet

open BonusTable (WeaponEffect WeaponUse weaponBonus? targetKeys)

/-! ### Queries -/

/-- Whether a weapon bonus of an owner reaches a weapon in use. -/
def WeaponBonus.reachesUse (use : WeaponUse) (owner : ItemId) (w : WeaponBonus) : Bool :=
  match w.selection with
  | .thisWeapon => owner == use.owner && w.specialization.accepts use.usage
  | .withRequiredSkill =>
    w.reachesSkill use.skillName use.skillSpecialization use.relativeLevel use.tags
  | .withName => w.reachesName use.name use.usage use.tags

/-- Whether a skill bonus of an owner reaches the skill that a weapon in use is used with. -/
def SkillBonus.reachesUse (use : WeaponUse) (owner : ItemId) (k : SkillBonus) : Bool :=
  match k.selection with
  | .thisWeapon => owner == use.owner && k.specialization.accepts use.usage
  | .weaponsWithName => k.reaches use.name use.usage use.tags
  | .skillsWithName => false

/-- A query for the bonuses to something. -/
inductive BonusQuery where
  | skill (name specialization : String) (tags : List String)
  | weapon (effect : WeaponEffect) (use : WeaponUse)
  | weaponSkill (use : WeaponUse)
  | hitLocation (location : String)

namespace BonusQuery

/-- Whether a query asks for a bonus. -/
def selects : BonusQuery → Bonus → Bool
  | skill name specialization tags, b =>
    match b.feature with
    | .skillBonus k => k.selection == .skillsWithName && k.reaches name specialization tags
    | _ => false
  | weapon .damage use, b =>
    match b.feature with
    | .weaponBonus w => w.reachesUse use b.owner
    | _ => false
  | weapon .drDivisor use, b =>
    match b.feature with
    | .weaponDrDivisorBonus w => w.reachesUse use b.owner
    | _ => false
  | weaponSkill use, b =>
    match b.feature with
    | .skillBonus k => k.reachesUse use b.owner
    | _ => false
  | hitLocation location, b =>
    match b.feature with
    | .drBonus d => BonusKey.normalize d.location == BonusKey.normalize location
    | _ => false

end BonusQuery

/-- The bonuses that a table gives for a query. -/
def BonusTable.lookup (t : BonusTable) : BonusQuery → List Bonus
  | .skill name specialization tags => t.skillBonuses name specialization tags
  | .weapon effect use => t.weaponBonuses effect use
  | .weaponSkill use => t.weaponSkillBonuses use
  | .hitLocation location => t.drBonuses location

/-- Whether a bonus is one to reactions in a situation. -/
def Bonus.isReactionIn (situation : String) (b : Bonus) : Bool :=
  match b.feature with
  | .reactionBonus r => r.situation == situation
  | _ => false

/-! ### Searches by selection -/

/-- A search for bonuses that select their targets in one of several ways. -/
structure KeyedSearch (α σ : Type) where
  /-- The part of a feature that the search is about. -/
  part : Feature → Option α
  /-- How a bonus selects its targets. -/
  selection : α → σ
  /-- Whether the bonus of an owner is asked for. -/
  reaches : ItemId → α → Bool
  /-- The keys for bonuses with a selection. -/
  keys : σ → List String
  nodup_keys : ∀ x, (keys x).Nodup
  key_mem : ∀ {f a owner}, part f = some a → reaches owner a = true → f.key ∈ keys (selection a)

namespace KeyedSearch

variable {α σ : Type} [BEq σ] [LawfulBEq σ]

def selects (q : KeyedSearch α σ) (b : Bonus) : Bool := (q.part b.feature).any (q.reaches b.owner)

/-- Whether a bonus is asked for and selects its targets in the given way. -/
def selectsBy (q : KeyedSearch α σ) (x : σ) (b : Bonus) : Bool :=
  (q.part b.feature).any fun a => q.selection a == x && q.reaches b.owner a

/-- What the search finds with one selection after the other. -/
def found (q : KeyedSearch α σ) (t : BonusTable) (selections : List σ) : List Bonus :=
  selections.flatMap fun x => (t.bucketsOf (q.keys x)).filter (q.selectsBy x)

theorem selectsBy_iff {q : KeyedSearch α σ} {x : σ} {b : Bonus} :
    q.selectsBy x b = true ↔
      ∃ a, q.part b.feature = some a ∧ q.selection a = x ∧ q.reaches b.owner a = true := by
  simp [selectsBy, Option.any_eq_true]

/-- A scan for the bonuses with one selection needs only their own criterion. -/
theorem selectsBy_eq {q : KeyedSearch α σ} {x : σ} {p : Bonus → α → Bool}
    (h : ∀ b a, q.selection a = x → q.reaches b.owner a = p b a) :
    q.selectsBy x = fun b => (q.part b.feature).any fun a => q.selection a == x && p b a := by
  funext b
  refine congrArg ((q.part b.feature).any ·) (funext fun a => ?_)
  by_cases ha : q.selection a = x
  · rw [h b a ha]
  · rw [beq_eq_false_iff_ne.2 ha, Bool.false_and, Bool.false_and]

/-- **A search finds what it asks for**, each bonus once, if it tries every selection. -/
theorem found_ofList {q : KeyedSearch α σ} (bs : List Bonus) {selections : List σ}
    (hselections : selections.Nodup)
    (hall : ∀ owner a, q.reaches owner a = true → q.selection a ∈ selections) :
    (q.found (.ofList bs) selections).Perm (bs.filter q.selects) := by
  have hscan : q.selects = fun b => selections.any (q.selectsBy · b) := by
    funext b
    rw [Bool.eq_iff_iff, List.any_eq_true]
    simp only [selectsBy_iff, selects, Option.any_eq_true]
    constructor
    · rintro ⟨a, ha, hreaches⟩
      exact ⟨q.selection a, hall _ _ hreaches, a, ha, rfl, hreaches⟩
    · rintro ⟨-, -, a, ha, -, hreaches⟩
      exact ⟨a, ha, hreaches⟩
  have hbuckets (x : σ) : (((BonusTable.ofList bs).bucketsOf (q.keys x)).filter
      (q.selectsBy x)).Perm (bs.filter (q.selectsBy x)) := by
    refine BonusTable.filter_bucketsOf_ofList (q.nodup_keys x) fun b hb => ?_
    obtain ⟨a, ha, rfl, hreaches⟩ := selectsBy_iff.1 hb
    exact q.key_mem ha hreaches
  have hdisjoint : ∀ x ∈ selections, ∀ y ∈ selections, ∀ b,
      q.selectsBy x b = true → q.selectsBy y b = true → x = y := by
    intro x _ y _ b hx hy
    obtain ⟨a, ha, rfl, -⟩ := selectsBy_iff.1 hx
    obtain ⟨a', ha', rfl, -⟩ := selectsBy_iff.1 hy
    rw [Option.some.inj (ha.symm.trans ha')]
  rw [hscan]
  exact (List.Perm.flatMap_left selections fun x _ => hbuckets x).trans
    (flatMap_filter_perm hselections hdisjoint)

/-- The skill bonus in a feature. -/
def skillBonus? : Feature → Option SkillBonus
  | .skillBonus k => some k
  | _ => none

theorem skillBonus?_eq_some {f : Feature} {k : SkillBonus} :
    skillBonus? f = some k ↔ f = .skillBonus k := by
  cases f <;> simp [skillBonus?]

/-- A weapon bonus is filed under its own key, whatever its effect is. -/
theorem key_of_weaponBonus? {effect : WeaponEffect} {f : Feature} {w : WeaponBonus}
    (h : weaponBonus? effect f = some w) : f.key = w.key := by
  cases f with
  | weaponBonus b =>
      simp only [weaponBonus?, Option.ite_none_right_eq_some, Option.some.injEq] at h
      rw [← h.2]
      rfl
  | weaponDrDivisorBonus b =>
      simp only [weaponBonus?, Option.ite_none_right_eq_some, Option.some.injEq] at h
      rw [← h.2]
      rfl
  | _ => simp [weaponBonus?] at h

/-- The search for the bonuses to a skill. -/
def skills (name specialization : String) (tags : List String) :
    KeyedSearch SkillBonus SkillSelection where
  part := skillBonus?
  selection := SkillBonus.selection
  reaches _ k := k.selection == .skillsWithName && k.reaches name specialization tags
  keys _ := targetKeys BonusKey.skillName name
  nodup_keys _ := BonusTable.nodup_targetKeys _ _
  key_mem {f k owner} hf hk := by
    rw [skillBonus?_eq_some.1 hf]
    simp only [SkillBonus.reaches, Bool.and_eq_true, beq_iff_eq] at hk
    rw [Feature.key, SkillBonus.key, hk.1]
    exact BonusTable.ofCriteria_mem_targetKeys hk.2.1.1 _ _ _

/-- The search for the bonuses to a weapon. -/
def weapons (effect : WeaponEffect) (use : WeaponUse) :
    KeyedSearch WeaponBonus WeaponSelection where
  part := weaponBonus? effect
  selection := WeaponBonus.selection
  reaches := WeaponBonus.reachesUse use
  keys
    | .thisWeapon => [BonusKey.thisWeapon]
    | .withRequiredSkill => targetKeys BonusKey.skillName use.skillName
    | .withName => targetKeys BonusKey.weaponNamed use.name
  nodup_keys x := by
    cases x with
    | thisWeapon => exact List.pairwise_singleton _ _
    | withRequiredSkill | withName => exact BonusTable.nodup_targetKeys _ _
  key_mem {f w owner} hf hw := by
    rw [key_of_weaponBonus? hf, WeaponBonus.key]
    unfold WeaponBonus.reachesUse at hw
    cases hs : w.selection with
    | thisWeapon => exact List.mem_singleton.2 rfl
    | withRequiredSkill =>
        simp only [hs, WeaponBonus.reachesSkill, Bool.and_eq_true] at hw
        exact BonusTable.ofCriteria_mem_targetKeys hw.1.1.1 _ _ _
    | withName =>
        simp only [hs, WeaponBonus.reachesName, Bool.and_eq_true] at hw
        exact BonusTable.ofCriteria_mem_targetKeys hw.1.1 _ _ _

/-- The search for the bonuses to the skill that a weapon is used with. -/
def weaponSkills (use : WeaponUse) : KeyedSearch SkillBonus SkillSelection where
  part := skillBonus?
  selection := SkillBonus.selection
  reaches := SkillBonus.reachesUse use
  keys
    | .thisWeapon => [BonusKey.thisWeapon]
    | _ => targetKeys BonusKey.weaponNamed use.name
  nodup_keys x := by
    cases x with
    | thisWeapon => exact List.pairwise_singleton _ _
    | weaponsWithName | skillsWithName => exact BonusTable.nodup_targetKeys _ _
  key_mem {f k owner} hf hk := by
    rw [skillBonus?_eq_some.1 hf, Feature.key, SkillBonus.key]
    unfold SkillBonus.reachesUse at hk
    cases hs : k.selection with
    | thisWeapon => exact List.mem_singleton.2 rfl
    | weaponsWithName =>
        simp only [hs, SkillBonus.reaches, Bool.and_eq_true] at hk
        exact BonusTable.ofCriteria_mem_targetKeys hk.1.1 _ _ _
    | skillsWithName => simp [hs] at hk

end KeyedSearch

/-! ### The queries as searches -/

namespace BonusTable

open KeyedSearch

@[simp] theorem bucketsOf_singleton (t : BonusTable) (key : String) :
    t.bucketsOf [key] = t.bucket key := by
  simp [bucketsOf]

theorem skillBonuses_eq_found (t : BonusTable) (name specialization : String)
    (tags : List String) :
    t.skillBonuses name specialization tags =
      (skills name specialization tags).found t [.skillsWithName] := by
  simp only [found, List.flatMap_cons, List.flatMap_nil, List.append_nil, skillBonuses]
  refine List.filter_congr fun b _ => ?_
  cases hf : b.feature with
  | skillBonus k =>
      cases hs : k.selection <;> simp [selectsBy, skills, skillBonus?, hf, hs]
  | _ => simp [selectsBy, skills, skillBonus?, hf]

theorem weaponBonuses_eq_found (t : BonusTable) (effect : WeaponEffect) (use : WeaponUse) :
    t.weaponBonuses effect use =
      (weapons effect use).found t [.thisWeapon, .withRequiredSkill, .withName] := by
  have hown := selectsBy_eq (q := weapons effect use) (x := .thisWeapon)
    (p := fun b w => b.owner == use.owner && w.specialization.accepts use.usage)
    fun b w (hw : w.selection = .thisWeapon) => by simp [weapons, WeaponBonus.reachesUse, hw]
  have hskill := selectsBy_eq (q := weapons effect use) (x := .withRequiredSkill)
    (p := fun _ w =>
      w.reachesSkill use.skillName use.skillSpecialization use.relativeLevel use.tags)
    fun b w (hw : w.selection = .withRequiredSkill) => by
      simp [weapons, WeaponBonus.reachesUse, hw]
  have hname := selectsBy_eq (q := weapons effect use) (x := .withName)
    (p := fun _ w => w.reachesName use.name use.usage use.tags)
    fun b w (hw : w.selection = .withName) => by simp [weapons, WeaponBonus.reachesUse, hw]
  have hbucket : t.bucketsOf ((weapons effect use).keys .thisWeapon) =
      t.bucket BonusKey.thisWeapon := t.bucketsOf_singleton _
  simp only [found, List.flatMap_cons, List.flatMap_nil, List.append_nil, ← List.append_assoc]
  rw [hown, hskill, hname, hbucket]
  simp only [weaponBonuses, Bool.and_assoc]
  rfl

theorem weaponSkillBonuses_eq_found (t : BonusTable) (use : WeaponUse) :
    t.weaponSkillBonuses use =
      (weaponSkills use).found t [.thisWeapon, .weaponsWithName] := by
  have hown := selectsBy_eq (q := weaponSkills use) (x := .thisWeapon)
    (p := fun b k => b.owner == use.owner && k.specialization.accepts use.usage)
    fun b k (hk : k.selection = .thisWeapon) => by
      simp [weaponSkills, SkillBonus.reachesUse, hk]
  have hname := selectsBy_eq (q := weaponSkills use) (x := .weaponsWithName)
    (p := fun _ k => k.reaches use.name use.usage use.tags)
    fun b k (hk : k.selection = .weaponsWithName) => by
      simp [weaponSkills, SkillBonus.reachesUse, hk]
  have hbucket : t.bucketsOf ((weaponSkills use).keys .thisWeapon) =
      t.bucket BonusKey.thisWeapon := t.bucketsOf_singleton _
  simp only [found, List.flatMap_cons, List.flatMap_nil, List.append_nil]
  rw [hown, hname, hbucket]
  refine congrArg₂ (· ++ ·) (List.filter_congr fun b _ => ?_) (List.filter_congr fun b _ => ?_)
  · cases b.feature <;> simp [weaponSkills, skillBonus?, Bool.and_assoc]
  · cases b.feature <;> simp [weaponSkills, skillBonus?]

/-- A hit location is queried under the key that its bonuses are filed under. -/
theorem drBonuses_ofList (bs : List Bonus) (location : String) :
    (ofList bs).drBonuses location = bs.filter (BonusQuery.hitLocation location).selects := by
  rw [drBonuses, bucket_ofList, List.filter_filter]
  refine List.filter_congr fun b _ => ?_
  cases hf : b.feature with
  | drBonus d =>
      simp only [BonusQuery.selects, hf, Feature.key, Bool.true_and]
      rw [Bool.eq_iff_iff, beq_iff_eq, beq_iff_eq, BonusKey.hitLocation, BonusKey.hitLocation,
        String.append_right_inj]
  | _ => simp [BonusQuery.selects, hf]

/-- A query finds the bonuses that it asks for, each once. -/
theorem lookup_perm (bs : List Bonus) (q : BonusQuery) :
    ((ofList bs).lookup q).Perm (bs.filter q.selects) := by
  cases q with
  | skill name specialization tags =>
      have hselects : (BonusQuery.skill name specialization tags).selects =
          (skills name specialization tags).selects := by
        funext b
        simp only [BonusQuery.selects, KeyedSearch.selects, skills]
        cases b.feature <;> rfl
      rw [lookup, skillBonuses_eq_found, hselects]
      refine found_ofList bs (by decide) fun owner k hk => List.mem_singleton.2 ?_
      exact beq_iff_eq.1 (Bool.and_eq_true_iff.1 hk).1
  | weapon effect use =>
      have hselects : (BonusQuery.weapon effect use).selects = (weapons effect use).selects := by
        funext b
        cases effect <;> simp only [BonusQuery.selects, KeyedSearch.selects, weapons] <;>
          cases b.feature <;> rfl
      rw [lookup, weaponBonuses_eq_found, hselects]
      refine found_ofList bs (by decide) fun owner w _ => ?_
      cases (weapons effect use).selection w <;> decide
  | weaponSkill use =>
      have hselects : (BonusQuery.weaponSkill use).selects = (weaponSkills use).selects := by
        funext b
        simp only [BonusQuery.selects, KeyedSearch.selects, weaponSkills]
        cases b.feature <;> rfl
      rw [lookup, weaponSkillBonuses_eq_found, hselects]
      refine found_ofList bs (by decide) fun owner k hk => ?_
      have hselection : k.selection ≠ .skillsWithName := by
        intro hs
        simp [weaponSkills, SkillBonus.reachesUse, hs] at hk
      cases hs : k.selection with
      | thisWeapon | weaponsWithName => simp [weaponSkills, hs]
      | skillsWithName => exact absurd hs hselection
  | hitLocation location =>
      rw [lookup, drBonuses_ofList]

/-! ### Reactions -/

/-- Adds a bonus to the total of its situation. -/
def addReaction (totals : KeyMap Fixed) (b : Bonus) : KeyMap Fixed :=
  match b.feature with
  | .reactionBonus r => totals.alter r.situation fun sum => sum.getD 0 + b.amount
  | _ => totals

/-- A bonus to reactions counts for its own situation. -/
theorem get?_addReaction (totals : KeyMap Fixed) (b : Bonus) (situation : String) :
    (addReaction totals b).get? situation =
      if b.isReactionIn situation then some ((totals.get? situation).getD 0 + b.amount)
      else totals.get? situation := by
  unfold addReaction Bonus.isReactionIn
  cases b.feature with
  | reactionBonus r =>
      simp only [KeyMap.get?_alter, beq_iff_eq]
      by_cases h : situation = r.situation
      · subst h
        simp
      · simp [h, Ne.symm h]
  | _ => rfl

/-- Adding bonuses one by one adds up those to the situation, on top of what was there. -/
theorem get?_foldl_addReaction (bs : List Bonus) (totals : KeyMap Fixed) (situation : String) :
    (bs.foldl addReaction totals).get? situation =
      if bs.filter (Bonus.isReactionIn situation) = [] then totals.get? situation
      else some (((bs.filter (Bonus.isReactionIn situation)).map Bonus.amount).foldl (· + ·)
        ((totals.get? situation).getD 0)) := by
  induction bs generalizing totals with
  | nil => simp
  | cons b rest ih =>
      rw [List.foldl_cons, ih, get?_addReaction]
      by_cases hb : b.isReactionIn situation = true
      · by_cases hrest : rest.filter (Bonus.isReactionIn situation) = []
        · simp [hb, hrest]
        · simp [hb, hrest]
      · simp [hb]

/-- The total of a situation is that of the bonuses to reactions in it; without such bonuses
there is none. -/
theorem get?_reactions (bs : List Bonus) (situation : String) :
    (ofList bs).reactions.get? situation =
      if bs.filter (Bonus.isReactionIn situation) = [] then none
      else some (Fixed.sum ((bs.filter (Bonus.isReactionIn situation)).map Bonus.amount)) := by
  have hbucket : ((ofList bs).bucket BonusKey.reaction).filter (Bonus.isReactionIn situation) =
      bs.filter (Bonus.isReactionIn situation) := by
    refine filter_bucket_ofList fun b hb => ?_
    cases hf : b.feature with
    | reactionBonus r => rfl
    | _ => simp [Bonus.isReactionIn, hf] at hb
  have hfold := get?_foldl_addReaction ((ofList bs).bucket BonusKey.reaction) .empty situation
  rw [hbucket] at hfold
  exact hfold

/-- **Looking under keys is a scan of all bonuses.** A query gives the bonuses that it asks
for, each once. Their total is the sum of their amounts, exact when the absolute amounts stay in
range together, and the same with and without a tooltip. A tooltip gets a line for each of them in
the order of the sum, with the name of its owner and what it grants. Reactions have a total for each
situation that occurs, which is the sum of the bonuses to them there. -/
theorem lookup_ofList (bs : List Bonus) :
    (∀ q : BonusQuery,
      ((ofList bs).lookup q).Perm (bs.filter q.selects) ∧
      ∀ (s : Sheet) (tooltip : Option String),
        (s.bonusTotal ((ofList bs).lookup q) tooltip).1 =
          Fixed.sum (((ofList bs).lookup q).map Bonus.amount) ∧
        (Bonus.magnitude (bs.filter q.selects) ≤ Fixed.highest.raw.natAbs →
          (s.bonusTotal ((ofList bs).lookup q) tooltip).1.raw =
            Bonus.exactSum (bs.filter q.selects)) ∧
        (s.bonusTotal ((ofList bs).lookup q) tooltip).1 =
          (s.bonusTotal ((ofList bs).lookup q) none).1 ∧
        (s.bonusTotal ((ofList bs).lookup q) tooltip).2 =
          tooltip.map (· ++ String.join (((ofList bs).lookup q).map fun b =>
            "\n" ++ (s.itemName? b.owner).getD "" ++ " [" ++ b.wording ++ "]"))) ∧
    ∀ situation : String,
      ((ofList bs).reactions.contains situation = true ↔
        ∃ b ∈ bs, b.isReactionIn situation = true) ∧
      ∀ total, (ofList bs).reactions.get? situation = some total →
        total = Fixed.sum ((bs.filter (Bonus.isReactionIn situation)).map Bonus.amount) ∧
        (Bonus.magnitude (bs.filter (Bonus.isReactionIn situation)) ≤ Fixed.highest.raw.natAbs →
          total.raw = Bonus.exactSum (bs.filter (Bonus.isReactionIn situation))) := by
  refine ⟨fun q => ⟨lookup_perm bs q, fun s tooltip => ⟨?_, fun h => ?_, ?_, ?_⟩⟩,
    fun situation => ⟨?_, fun total htotal => ?_⟩⟩
  · rw [Sheet.bonusTotal, Bonus.total_fst]
  · rw [Sheet.bonusTotal, Bonus.total_fst,
      Bonus.raw_sum_amount (Bonus.magnitude_perm (lookup_perm bs q) ▸ h),
      Bonus.exactSum_perm (lookup_perm bs q)]
  · rw [Sheet.bonusTotal, Sheet.bonusTotal, Bonus.total_fst, Bonus.total_fst]
  · rw [Sheet.bonusTotal, Bonus.total_eq]
    rfl
  · rw [KeyMap.contains, get?_reactions]
    by_cases hnone : bs.filter (Bonus.isReactionIn situation) = []
    · simpa [hnone] using List.filter_eq_nil_iff.1 hnone
    · simpa [hnone] using mt List.filter_eq_nil_iff.2 hnone
  · have hsum : total = Fixed.sum ((bs.filter (Bonus.isReactionIn situation)).map Bonus.amount) := by
      rw [get?_reactions] at htotal
      split at htotal
      · exact absurd htotal (by simp)
      · exact (Option.some.inj htotal).symm
    exact ⟨hsum, fun h => by rw [hsum, Bonus.raw_sum_amount h]⟩

end BonusTable

end CharacterSheet
