import CharacterSheet.Proofs.BonusTable

/-!
# Lookup of bonuses to spells

The bonuses to a spell are looked up under the keys of its name, its power source and its
colleges. This module proves that the lookup finds the bonuses that reach the spell, each
once, `spellBonuses_ofList`, but for one case.

Criteria are tested on a spell without colleges as if it had one with the empty name. So a
bonus to the college with the empty name reaches the spell, but it is filed under the key of
that college, which is looked up only for a spell that lists the empty name.
-/

namespace CharacterSheet

open BonusTable (spellKeys targetKeys)

/-! ### Keys of bonuses to spells -/

namespace BonusTable

/-- The keys that bonuses to a spell are looked up under. -/
theorem mem_spellKeys {name powerSource key : String} {colleges : List String} :
    key ∈ spellKeys name colleges powerSource ↔
      key = BonusKey.spellCollege ∨ key = BonusKey.wildcard BonusKey.spellCollege ∨
        (∃ c ∈ colleges, key = BonusKey.exact BonusKey.spellCollege c) ∨
        key ∈ targetKeys BonusKey.spellPowerSource powerSource ∨
        key ∈ targetKeys BonusKey.spellName name := by
  simp only [spellKeys, KeyMap.mem_keys_ofList, List.map_map, Function.comp_def, List.map_id_fun',
    id_eq, List.mem_append, List.mem_cons, List.mem_map, or_assoc, eq_comm (a := key)]

theorem nodup_spellKeys (name : String) (colleges : List String) (powerSource : String) :
    (spellKeys name colleges powerSource).Nodup :=
  KeyMap.nodup_keys _

/-- Without colleges, the key of no college is looked up. -/
theorem exact_spellCollege_not_mem_spellKeys (name powerSource college : String) :
    BonusKey.exact BonusKey.spellCollege college ∉ spellKeys name [] powerSource := by
  intro h
  rw [mem_spellKeys] at h
  simp only [targetKeys, List.mem_cons, List.not_mem_nil, false_and, exists_false, or_false,
    false_or, ← String.toList_inj, BonusKey.exact, BonusKey.wildcard, String.toList_append] at h
  simp [BonusKey.spellCollege, BonusKey.spellPowerSource, BonusKey.spellName] at h

end BonusTable

namespace SpellBonus

/-- Whether the bonus is one to the spells of the college with the empty name, whatever their
tags are. -/
def namesEmptyCollege (b : SpellBonus) : Bool :=
  b.select == .collegeName && b.name == .is "" && b.tags.isAny

theorem namesEmptyCollege_iff {b : SpellBonus} :
    b.namesEmptyCollege = true ↔
      b.select = .collegeName ∧ b.name = .is "" ∧ b.tags.isAny = true := by
  simp [namesEmptyCollege, and_assoc]

theorem key_of_namesEmptyCollege {b : SpellBonus} (h : b.namesEmptyCollege = true) :
    b.key = BonusKey.exact BonusKey.spellCollege "" := by
  obtain ⟨hselect, hname, htags⟩ := namesEmptyCollege_iff.1 h
  rw [key, htags, hselect, hname]
  rfl

/-- A bonus to colleges that reaches a spell is filed under the key of one of its colleges or
under the wildcard key, if the spell has colleges or the bonus does not name the empty one. -/
theorem ofCriteria_mem_spellKeys {criterion : StringCriteria} {name powerSource : String}
    {colleges : List String} (h : criterion.acceptsList colleges = true)
    (hcolleges : colleges = [] → criterion ≠ .is "") :
    BonusKey.ofCriteria BonusKey.spellCollege criterion .any .any ∈
      spellKeys name colleges powerSource := by
  by_cases his : criterion.compare = .is
  · cases colleges with
    | nil =>
        -- The empty text is accepted by one criterion for equality only.
        have hlower : Text.lowercase "" = Text.lowercase criterion.qualifier := by
          simp only [StringCriteria.acceptsList, List.isEmpty_nil, if_true, StringCriteria.accepts,
            his, StringCompare.holds, beq_iff_eq] at h
          exact String.toList_inj.1 h
        have hempty : criterion.qualifier = "" :=
          Text.lowercase_eq_empty.1 (hlower.symm.trans (Text.lowercase_eq_empty.2 rfl))
        refine absurd ?_ (hcolleges rfl)
        rw [StringCriteria.is, ← his, ← hempty]
    | cons c rest =>
        have hsome : ∃ c' ∈ c :: rest, criterion.accepts c' = true := by
          simpa [StringCriteria.acceptsList, his, StringCompare.isNegated] using h
        obtain ⟨c', hc', haccepts⟩ := hsome
        have hkey := BonusTable.ofCriteria_mem_targetKeys haccepts BonusKey.spellCollege .any .any
        rw [BonusTable.mem_spellKeys]
        rcases List.mem_cons.1 hkey with hkey | hkey
        · exact .inr (.inr (.inl ⟨c', hc', hkey⟩))
        · exact .inr (.inl (List.mem_singleton.1 hkey))
  · have hwildcard : BonusKey.ofCriteria BonusKey.spellCollege criterion .any .any =
        BonusKey.wildcard BonusKey.spellCollege := by
      simp [BonusKey.ofCriteria, his]
    rw [hwildcard, BonusTable.mem_spellKeys]
    exact .inr (.inl rfl)

/-- **Where bonuses to spells are filed.** The lookup for a spell looks under the key of each
bonus that reaches the spell, unless the spell has no colleges and the bonus names the empty
one. -/
theorem key_mem_spellKeys_iff {b : SpellBonus} {name powerSource : String}
    {colleges tags : List String} (h : b.reaches name colleges powerSource tags = true) :
    b.key ∈ spellKeys name colleges powerSource ↔
      ¬ (colleges = [] ∧ b.namesEmptyCollege = true) := by
  constructor
  · rintro hkey ⟨rfl, hempty⟩
    rw [key_of_namesEmptyCollege hempty] at hkey
    exact BonusTable.exact_spellCollege_not_mem_spellKeys _ _ _ hkey
  · intro hnames
    unfold key
    by_cases htags : b.tags.isAny = true
    · rw [htags]
      simp only [reaches, Bool.and_eq_true] at h
      cases hselect : b.select with
      | allColleges => exact BonusTable.mem_spellKeys.2 (.inl rfl)
      | collegeName =>
          refine ofCriteria_mem_spellKeys (by simpa [hselect] using h.2) fun hnone hname => ?_
          exact hnames ⟨hnone, namesEmptyCollege_iff.2 ⟨hselect, hname, htags⟩⟩
      | powerSourceName =>
          have haccepts : b.name.accepts powerSource = true := by simpa [hselect] using h.2
          exact BonusTable.mem_spellKeys.2 (.inr (.inr (.inr (.inl
            (BonusTable.ofCriteria_mem_targetKeys haccepts _ _ _)))))
      | spellName =>
          have haccepts : b.name.accepts name = true := by simpa [hselect] using h.2
          exact BonusTable.mem_spellKeys.2 (.inr (.inr (.inr (.inr
            (BonusTable.ofCriteria_mem_targetKeys haccepts _ _ _)))))
    · rw [Bool.not_eq_true] at htags
      rw [htags]
      exact BonusTable.mem_spellKeys.2 (.inr (.inr (.inr (.inr
        (List.mem_cons_of_mem _ List.mem_cons_self)))))

end SpellBonus

/-! ### The lookup -/

namespace Bonus

/-- Whether a bonus reaches a spell. -/
def reachesSpell (name : String) (colleges : List String) (powerSource : String)
    (tags : List String) (b : Bonus) : Bool :=
  match b.feature with
  | .spellBonus p => p.reaches name colleges powerSource tags
  | _ => false

/-- Whether a bonus is one to the spells of the college with the empty name. -/
def namesEmptyCollege (b : Bonus) : Bool :=
  match b.feature with
  | .spellBonus p => p.namesEmptyCollege
  | _ => false

theorem key_mem_spellKeys_iff {b : Bonus} {name powerSource : String}
    {colleges tags : List String} (h : b.reachesSpell name colleges powerSource tags = true) :
    b.feature.key ∈ spellKeys name colleges powerSource ↔
      ¬ (colleges = [] ∧ b.namesEmptyCollege = true) := by
  unfold reachesSpell at h
  unfold namesEmptyCollege
  cases hf : b.feature with
  | spellBonus p =>
      rw [hf] at h
      exact SpellBonus.key_mem_spellKeys_iff h
  | _ => simp [hf] at h

/-- Whether the lookup for a spell finds a bonus: it reaches the spell, and does not name the
empty college if the spell has no colleges. -/
def isFoundForSpell (name : String) (colleges : List String) (powerSource : String)
    (tags : List String) (b : Bonus) : Bool :=
  b.reachesSpell name colleges powerSource tags && !(colleges.isEmpty && b.namesEmptyCollege)

end Bonus

namespace BonusTable

/-- The lookup for a spell is a scan for the bonuses that it finds. -/
theorem spellBonuses_perm (bs : List Bonus) (name : String) (colleges : List String)
    (powerSource : String) (tags : List String) :
    ((ofList bs).spellBonuses name colleges powerSource tags).Perm
      (bs.filter (Bonus.isFoundForSpell name colleges powerSource tags)) := by
  have hbuckets := (bucketsOf_ofList bs (nodup_spellKeys name colleges powerSource)).filter
    (Bonus.reachesSpell name colleges powerSource tags)
  rw [List.filter_filter] at hbuckets
  have hfound : (fun b => b.reachesSpell name colleges powerSource tags &&
        (spellKeys name colleges powerSource).any fun key => b.feature.key == key) =
      Bonus.isFoundForSpell name colleges powerSource tags := by
    funext b
    unfold Bonus.isFoundForSpell
    by_cases hreaches : b.reachesSpell name colleges powerSource tags = true
    · rw [hreaches, Bool.true_and, Bool.true_and, Bool.eq_iff_iff]
      simpa [imp_iff_not_or] using Bonus.key_mem_spellKeys_iff hreaches
    · simp [hreaches]
  rw [hfound] at hbuckets
  exact hbuckets

/-- **What the lookup for a spell finds**: the bonuses that reach the spell, each once, but for
those to the empty college when the spell has no colleges. It finds all that reach the spell
exactly if there are none of these, and totals are exact when the absolute amounts stay in
range together. -/
theorem spellBonuses_ofList (bs : List Bonus) (name : String) (colleges : List String)
    (powerSource : String) (tags : List String) :
    (((ofList bs).spellBonuses name colleges powerSource tags).Perm
        (bs.filter (Bonus.reachesSpell name colleges powerSource tags)) ↔
      (colleges = [] → ∀ b ∈ bs, b.reachesSpell name colleges powerSource tags = true →
        b.namesEmptyCollege = false)) ∧
    ((ofList bs).spellBonuses name colleges powerSource tags).Perm
      (bs.filter (Bonus.isFoundForSpell name colleges powerSource tags)) ∧
    ∀ (s : Sheet) (tooltip : Option String),
      Bonus.magnitude (bs.filter (Bonus.isFoundForSpell name colleges powerSource tags)) ≤
          Fixed.highest.raw.natAbs →
        (s.bonusTotal ((ofList bs).spellBonuses name colleges powerSource tags) tooltip).1.raw =
          Bonus.exactSum (bs.filter (Bonus.isFoundForSpell name colleges powerSource tags)) := by
  have hperm := spellBonuses_perm bs name colleges powerSource tags
  refine ⟨?_, hperm, fun s tooltip h => ?_⟩
  · have hagree (b : Bonus) :
        b.isFoundForSpell name colleges powerSource tags =
            b.reachesSpell name colleges powerSource tags ↔
          (colleges = [] → b.reachesSpell name colleges powerSource tags = true →
            b.namesEmptyCollege = false) := by
      unfold Bonus.isFoundForSpell
      cases b.reachesSpell name colleges powerSource tags <;> simp [imp_iff_not_or]
    rw [hperm.congr_left, filter_perm_filter_iff]
    simp only [hagree]
    exact ⟨fun hall hnone b hb => hall b hb hnone, fun hall b hb hnone => hall hnone b hb⟩
  · rw [Sheet.bonusTotal, Bonus.total_fst,
      Bonus.raw_sum_amount (Bonus.magnitude_perm hperm ▸ h), Bonus.exactSum_perm hperm]

/-- A bonus of one to the spells of the college with the empty name. -/
def emptyCollegeBonus : Bonus := ⟨⟨1⟩, .spellBonus { select := .collegeName, name := .is "" }⟩

/-- The bonus reaches a spell without colleges, and the lookup for the spell does not find
it. -/
theorem emptyCollegeBonus_not_found :
    [emptyCollegeBonus].filter (Bonus.reachesSpell "Light" [] "" []) = [emptyCollegeBonus] ∧
      (ofList [emptyCollegeBonus]).spellBonuses "Light" [] "" [] = [] := by
  decide

end BonusTable

end CharacterSheet
