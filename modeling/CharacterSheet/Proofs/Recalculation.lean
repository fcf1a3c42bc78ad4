import CharacterSheet.DefaultGraph
import CharacterSheet.Proofs.ItemMap

/-!
# What recalculation does to items

Recalculation files the bonuses, and then changes items in two steps: the levels are
written on top of the bonuses, `leveled`, and the reasons on top of both. This module
states each step as a change of the items: reasons are written to the items that they are
for if pieces of equipment have ids of their own, `updateReasons_eq`, and every skill keeps
the level that it has on the recalculated sheet, `level_of_mem_recalculate`. What is no input
of bonuses and levels makes no difference to them, `leveled_mapItems`; prerequisites are none,
`leveled_forgetPrereqs`.
-/

namespace CharacterSheet

open ItemMap (forgetPrereqs forgetReasons forgetDerived)

/-! ### Levels -/

/-- Writes the levels that skills and spells have on a sheet. -/
def ItemMap.levels (s : Sheet) : ItemMap where
  skill k := { k with level := (s.skillLevel k .empty).1 }
  spell p := { p with level := s.spellLevel p }

theorem ItemMap.keepsNames_levels (s : Sheet) : (levels s).KeepsNames := {}

namespace Sheet

/-- The sheet with bonuses and levels up to date. -/
def leveled (s : Sheet) : Sheet := s.gatherBonuses.mapItems (.levels s.gatherBonuses)

/-- The levels of skills do not show in those of spells. -/
theorem updateSpells_updateSkills (s : Sheet) :
    s.updateSkills.updateSpells = s.mapItems (.levels s) := by
  have hskills : s.updateSkills =
      s.mapItems { skill := fun k => { k with level := (s.skillLevel k .empty).1 } } := by
    simp only [mapItems, Equipment.mapGearAll_id, List.map_id_fun, id_eq]
    rfl
  have hinputs : ItemMap.KeepsInputs
      { skill := fun k => { k with level := (s.skillLevel k .empty).1 } } := {}
  have hspell : s.updateSkills.spellLevel = s.spellLevel :=
    funext fun p => hskills ▸ spellLevel_mapItems hinputs s p
  rw [updateSpells, hspell]
  simp only [mapItems, ItemMap.levels, Equipment.mapGearAll_id, List.map_id_fun, id_eq]
  rfl

theorem recalculate_eq (s : Sheet) : s.recalculate = s.leveled.updateReasons := by
  rw [recalculate, updateSpells_updateSkills]
  rfl

end Sheet

/-! ### Reasons -/

namespace Equipment

mutual

/-- Writing reasons to pieces of equipment changes nothing but the reasons. -/
theorem mapGear_writeReasons :
    ∀ (e : Equipment) (r : Reasons),
      mapGear forgetReasons.gear (writeReasons r e).1 = mapGear forgetReasons.gear e
  | ⟨gear, children⟩, r => by
      simp only [writeReasons, mapGear, mapGearAll_writeReasonsAll children _]
      rfl

theorem mapGearAll_writeReasonsAll :
    ∀ (es : List Equipment) (r : Reasons),
      mapGearAll forgetReasons.gear (writeReasonsAll r es).1 = mapGearAll forgetReasons.gear es
  | [], _ => rfl
  | e :: rest, r => by
      simp only [writeReasonsAll, mapGearAll, mapGear_writeReasons e _,
        mapGearAll_writeReasonsAll rest _]

end

/-- The ids of pieces. -/
def ids (pieces : List Equipment) : List ItemId := pieces.map (·.id)

/-- Writes the reason that is recorded under the id of a piece. -/
def withRecorded (r : Reasons) (gear : Gear) : Gear :=
  { gear with unsatisfiedReason := r gear.id }

mutual

/-- If the ids are different, each piece gets what is recorded under its id, and what is
recorded under other ids is left. -/
theorem writeReasons_eq :
    ∀ (e : Equipment) (r : Reasons), (ids (pieces e)).Nodup →
      writeReasons r e =
        (mapGear (withRecorded r) e, fun id => if id ∈ ids (pieces e) then none else r id)
  | ⟨gear, children⟩, r, h => by
      obtain ⟨hgear, hchildren⟩ : gear.id ∉ ids (piecesAll children) ∧
        (ids (piecesAll children)).Nodup := List.nodup_cons.1 h
      -- The reason of the container is gone by then, but no piece in it has its id.
      have hsame : mapGearAll (withRecorded (r.record gear.id none)) children =
          mapGearAll (withRecorded r) children := by
        refine mapGearAll_congr children fun x hx => ?_
        have hne : x.id ≠ gear.id := fun heq => hgear (heq ▸ List.mem_map_of_mem hx)
        simp [withRecorded, Reasons.record, hne]
      rw [writeReasons, writeReasonsAll_eq children _ hchildren]
      refine Prod.ext (by rw [mapGear, hsame]; rfl) (funext fun id => ?_)
      by_cases hid : id = gear.id <;> simp [ids, pieces, Reasons.record, hid]

theorem writeReasonsAll_eq :
    ∀ (es : List Equipment) (r : Reasons), (ids (piecesAll es)).Nodup →
      writeReasonsAll r es =
        (mapGearAll (withRecorded r) es,
          fun id => if id ∈ ids (piecesAll es) then none else r id)
  | [], r, _ => by
      simp [writeReasonsAll, mapGearAll, piecesAll, ids]
  | e :: rest, r, h => by
      have hids : ids (piecesAll (e :: rest)) = ids (pieces e) ++ ids (piecesAll rest) :=
        List.map_append
      rw [hids, List.nodup_append] at h
      obtain ⟨he, hrest, hdisjoint⟩ := h
      rw [writeReasonsAll, writeReasons_eq e r he]
      dsimp only
      have hsame : mapGearAll
          (withRecorded fun id => if id ∈ ids (pieces e) then none else r id) rest =
          mapGearAll (withRecorded r) rest := by
        refine mapGearAll_congr rest fun x hx => ?_
        have hne : x.id ∉ ids (pieces e) := fun hmem =>
          hdisjoint _ hmem _ (List.mem_map_of_mem hx) rfl
        simp [withRecorded, hne]
      rw [writeReasonsAll_eq rest _ hrest, hsame]
      refine Prod.ext rfl (funext fun id => ?_)
      by_cases hid : id ∈ ids (pieces e) <;> simp [hids, hid]

end

theorem foldl_record_of_not_mem {es : List Equipment} (reason : Equipment → Option String)
    {id : ItemId} (h : id ∉ ids es) (r : Reasons) :
    (es.foldl (fun r e => r.record e.id (reason e)) r) id = r id := by
  induction es generalizing r with
  | nil => rfl
  | cons x rest ih =>
      obtain ⟨hx, hrest⟩ := List.ne_and_not_mem_of_not_mem_cons h
      rw [List.foldl_cons, ih hrest, Reasons.record, if_neg hx]

/-- Recording a reason for each piece of a list records each under the id of its piece. -/
theorem foldl_record_of_mem {es : List Equipment} (reason : Equipment → Option String)
    (h : (ids es).Nodup) {e : Equipment} (he : e ∈ es) (r : Reasons) :
    (es.foldl (fun r e => r.record e.id (reason e)) r) e.id = reason e := by
  induction es generalizing r with
  | nil => exact absurd he List.not_mem_nil
  | cons x rest ih =>
      obtain ⟨hx, hrest⟩ := List.nodup_cons.1 h
      rw [List.foldl_cons]
      rcases List.mem_cons.1 he with rfl | he
      · rw [foldl_record_of_not_mem reason hx, Reasons.record, if_pos rfl]
      · exact ih hrest he _

end Equipment

/-- Writes the reasons that the items' own prerequisites give on a sheet. -/
def ItemMap.reasons (s : Sheet) : ItemMap where
  trait t := { t with unsatisfiedReason := s.unsatisfiedReason t.prereqs t.id }
  skill k := { k with unsatisfiedReason := s.unsatisfiedReason k.prereqs k.id }
  spell p := { p with unsatisfiedReason := s.unsatisfiedReason p.prereqs p.id }
  gear g := { g with unsatisfiedReason := s.unsatisfiedReason g.prereqs g.id }

theorem ItemMap.keepsNames_reasons (s : Sheet) : (reasons s).KeepsNames := {}

namespace Item

def prereqs : Item → Option PrereqList
  | ofTrait t => t.prereqs
  | ofSkill k => k.prereqs
  | ofSpell p => p.prereqs
  | ofEquipment e => e.prereqs

def unsatisfiedReason : Item → Option String
  | ofTrait t => t.unsatisfiedReason
  | ofSkill k => k.unsatisfiedReason
  | ofSpell p => p.unsatisfiedReason
  | ofEquipment e => e.unsatisfiedReason

end Item

namespace Sheet

/-- The reason that is recorded for the item with an id. -/
def reasonOf (s : Sheet) (id : ItemId) : Option String := (s.item? id).bind Item.unsatisfiedReason

/-- Pieces of equipment have ids of their own. -/
def DistinctPieces (s : Sheet) : Prop := (Equipment.ids s.pieces).Nodup

instance (s : Sheet) : Decidable s.DistinctPieces := inferInstanceAs (Decidable (List.Nodup _))

theorem distinctPieces_mapItems {f : ItemMap} (h : f.KeepsNames) {s : Sheet} :
    (s.mapItems f).DistinctPieces ↔ s.DistinctPieces := by
  have hids : Equipment.ids (s.mapItems f).pieces = Equipment.ids s.pieces := by
    rw [pieces_mapItems, Equipment.ids, List.map_map]
    exact List.map_congr_left fun e _ => h.id_item (.ofEquipment e)
  rw [DistinctPieces, DistinctPieces, hids]

/-- If pieces have ids of their own, each item gets its own reason. -/
theorem updateReasons_eq {s : Sheet} (h : s.DistinctPieces) :
    s.updateReasons = s.mapItems (.reasons s) := by
  have hwrite : (Equipment.writeReasonsAll s.equipmentReasons s.equipment).1 =
      Equipment.mapGearAll (ItemMap.reasons s).gear s.equipment := by
    rw [Equipment.writeReasonsAll_eq s.equipment _ h]
    refine Equipment.mapGearAll_congr s.equipment fun x hx => ?_
    have hx := Equipment.foldl_record_of_mem (fun e => s.unsatisfiedReason e.prereqs e.id) h hx
      .empty
    rw [Equipment.withRecorded]
    exact congrArg _ hx
  rw [updateReasons, hwrite]
  rfl

/-- Writing reasons changes nothing but the reasons. -/
theorem updateReasons_forgetReasons (s : Sheet) :
    s.updateReasons.mapItems forgetReasons = s.mapItems forgetReasons := by
  simp only [updateReasons, mapItems, List.map_map, Equipment.mapGearAll_writeReasonsAll]
  rfl

theorem updateReasons_forgetPrereqs (s : Sheet) :
    s.updateReasons.mapItems forgetPrereqs = s.mapItems forgetPrereqs := by
  -- Reasons are among what is forgotten, and so they can be forgotten first.
  have hreasons (t : Sheet) :
      t.mapItems forgetPrereqs = (t.mapItems forgetReasons).mapItems forgetPrereqs := by
    rw [mapItems_mapItems]
    rfl
  rw [hreasons, updateReasons_forgetReasons, ← hreasons]

/-- Recalculation changes the bonuses of a sheet, and of the items only what it writes. -/
theorem recalculate_forgetDerived (s : Sheet) :
    s.recalculate.mapItems forgetDerived = s.gatherBonuses.mapItems forgetDerived := by
  have hreasons (t : Sheet) :
      t.mapItems forgetDerived = (t.mapItems forgetReasons).mapItems forgetDerived := by
    rw [mapItems_mapItems]
    rfl
  rw [recalculate_eq, hreasons, updateReasons_forgetReasons, ← hreasons, leveled,
    mapItems_mapItems]
  rfl

/-- The level that recalculation wrote to a skill is the level of the skill. -/
theorem level_of_mem_recalculate {s : Sheet} {k : Skill} (hk : k ∈ s.recalculate.skills) :
    k.level = (s.recalculate.skillLevel k .empty).1 := by
  simp only [recalculate, updateReasons, updateSpells, updateSkills, List.map_map,
    List.mem_map] at hk
  obtain ⟨k, -, rfl⟩ := hk
  have hlevel := skillLevel_mapItems ItemMap.keepsInputs_forgetDerived
  rw [← hlevel s.recalculate, recalculate_forgetDerived]
  exact congrArg Prod.fst (hlevel s.gatherBonuses k .empty).symm

end Sheet

/-! ### What is no input -/

namespace Equipment

mutual

/-- Which pieces are active depends on whether they are equipped only. -/
theorem active_mapGear {f : Gear → Gear} (h : ∀ gear, (f gear).equipped = gear.equipped) :
    ∀ e : Equipment, active (mapGear f e) = (active e).map (mapGear f)
  | ⟨gear, children⟩ => by
      simp only [mapGear, active, h gear]
      split
      · simp only [List.map_cons, mapGear, activeAll_mapGearAll h children]
      · rfl

theorem activeAll_mapGearAll {f : Gear → Gear} (h : ∀ gear, (f gear).equipped = gear.equipped) :
    ∀ es : List Equipment, activeAll (mapGearAll f es) = (activeAll es).map (mapGear f)
  | [] => rfl
  | e :: rest => by
      simp only [mapGearAll, activeAll, List.map_append, active_mapGear h e,
        activeAll_mapGearAll h rest]

end

mutual

/-- What a piece weighs depends on weights and quantities only. -/
theorem extendedWeight_mapGear {f : Gear → Gear}
    (h : ∀ gear, (f gear).weight * (f gear).quantity = gear.weight * gear.quantity) :
    ∀ e : Equipment, extendedWeight (mapGear f e) = extendedWeight e
  | ⟨gear, children⟩ => by
      simp only [mapGear, extendedWeight, h gear, extendedWeightFrom_mapGearAll h children]

theorem extendedWeightFrom_mapGearAll {f : Gear → Gear}
    (h : ∀ gear, (f gear).weight * (f gear).quantity = gear.weight * gear.quantity) :
    ∀ (es : List Equipment) (sum : Weight),
      extendedWeightFrom sum (mapGearAll f es) = extendedWeightFrom sum es
  | [], _ => rfl
  | e :: rest, sum => by
      simp only [mapGearAll, extendedWeightFrom, extendedWeight_mapGear h e,
        extendedWeightFrom_mapGearAll h rest]

end

end Equipment

namespace Sheet

/-- The bonuses on a sheet are those of its items. -/
theorem grantedBonuses_eq (s : Sheet) :
    s.grantedBonuses =
      (s.traits.filter (!·.disabled)).flatMap Trait.bonuses ++ s.skills.flatMap Skill.bonuses ++
        (Equipment.activeAll s.equipment).flatMap (·.toGear.bonuses) := rfl

section Inputs

variable {f : ItemMap} (h : f.KeepsInputs)
include h

theorem grantedBonuses_mapItems (s : Sheet) :
    (s.mapItems f).grantedBonuses = s.grantedBonuses := by
  have htraits : ((s.mapItems f).traits.filter (!·.disabled)).flatMap Trait.bonuses =
      (s.traits.filter (!·.disabled)).flatMap Trait.bonuses := by
    simp only [mapItems, List.filter_map, List.flatMap_map, Function.comp_def, h.disabled_trait,
      h.bonuses_trait]
  have hskills : (s.mapItems f).skills.flatMap Skill.bonuses = s.skills.flatMap Skill.bonuses := by
    simp only [mapItems, List.flatMap_map, h.bonuses_skill]
  have hequipment : (Equipment.activeAll (s.mapItems f).equipment).flatMap (·.toGear.bonuses) =
      (Equipment.activeAll s.equipment).flatMap (·.toGear.bonuses) := by
    simp only [mapItems, Equipment.activeAll_mapGearAll h.equipped_gear, List.flatMap_map,
      Equipment.mapGear_toGear, h.bonuses_gear]
  rw [grantedBonuses_eq, grantedBonuses_eq, htraits, hskills, hequipment]

theorem gatherBonuses_mapItems (s : Sheet) :
    (s.mapItems f).gatherBonuses = s.gatherBonuses.mapItems f := by
  rw [gatherBonuses, grantedBonuses_mapItems h]
  rfl

/-- A change to what is no input of bonuses and levels can be made after they are computed. What
it does to the levels that were there before does not show. -/
theorem leveled_mapItems {g : ItemMap} (htrait : f.trait = g.trait)
    (hskill : ∀ k l, { f.skill k with level := l } = g.skill { k with level := l })
    (hspell : ∀ p l, { f.spell p with level := l } = g.spell { p with level := l })
    (hgear : f.gear = g.gear) (s : Sheet) :
    (s.mapItems f).leveled = s.leveled.mapItems g := by
  have hlevels (t : Sheet) : (ItemMap.levels (t.mapItems f)).comp f = g.comp (.levels t) := by
    have hskills : (ItemMap.levels (t.mapItems f)).skill ∘ f.skill =
        g.skill ∘ (ItemMap.levels t).skill := by
      funext k
      simp only [Function.comp, ItemMap.levels, skillLevel_mapItems h, hskill]
    have hspells : (ItemMap.levels (t.mapItems f)).spell ∘ f.spell =
        g.spell ∘ (ItemMap.levels t).spell := by
      funext p
      simp only [Function.comp, ItemMap.levels, spellLevel_mapItems h, hspell]
    rw [ItemMap.comp, ItemMap.comp, hskills, hspells, htrait, hgear]
    rfl
  rw [leveled, leveled, gatherBonuses_mapItems h, mapItems_mapItems, mapItems_mapItems, hlevels]

end Inputs

/-- Prerequisites make no difference to levels. -/
theorem leveled_forgetPrereqs (s : Sheet) :
    (s.mapItems forgetPrereqs).leveled = s.leveled.mapItems forgetPrereqs :=
  leveled_mapItems ItemMap.keepsInputs_forgetPrereqs rfl (fun _ _ => rfl) (fun _ _ => rfl) rfl s

end Sheet

/-! ### The graph of defaults -/

namespace DefaultGraph

/-- The edges of a skill depend on its defaults with values in place of their tokens. -/
theorem addSkill_eq (s : Sheet) (g : DefaultGraph) (k : Skill) :
    addSkill s g k =
      (k.displayDefaults.filter SkillDefault.isSkillBased).foldl
        (fun g d =>
          (d.candidates s .empty false .empty).foldl (fun g target => g.addEdge k.id target.id) g)
        (g.addNode k.id) := by
  have hdefaults : k.displayDefaults.filter SkillDefault.isSkillBased =
      (k.defaults.filter SkillDefault.isSkillBased).map
        (HasPlaceholders.substitute k.replacements) := List.filter_map
  simp only [hdefaults, List.foldl_map, SkillDefault.candidates_substitute]
  rfl

/-- The graph depends on what levels are computed from only. -/
theorem ofSheet_mapItems {f : ItemMap} (h : f.KeepsInputs) (s : Sheet) :
    ofSheet (s.mapItems f) = ofSheet s := by
  have hid (k : Skill) : (f.skill k).id = k.id := h.id_item (.ofSkill k)
  have hskill (g : DefaultGraph) (k : Skill) :
      addSkill (s.mapItems f) g (f.skill k) = addSkill s g k := by
    simp only [addSkill_eq, h.displayDefaults_skill, SkillDefault.candidates_mapItems h,
      List.foldl_map, hid]
  have hskills : (s.mapItems f).skills = s.skills.map f.skill := rfl
  simp only [ofSheet, hskills, List.foldl_map, hskill]

/-- What recalculation writes is no part of the graph. -/
theorem ofSheet_recalculate (s : Sheet) : ofSheet s.recalculate = ofSheet s := by
  have hforget := ofSheet_mapItems ItemMap.keepsInputs_forgetDerived
  rw [← hforget s.recalculate, Sheet.recalculate_forgetDerived, hforget]
  rfl

end DefaultGraph

end CharacterSheet
