import CharacterSheet.Proofs.BonusTable
import CharacterSheet.Proofs.ChosenValues
import CharacterSheet.Proofs.ItemIds

/-!
# The features that are active

Bonuses are gathered from the features of the items that are active: traits that are not disabled,
skills, and pieces of equipment that are equipped together with every container around them. This
module says which features these are without following the walk through the containers,
`Sheet.grants`, and proves that the table holds a bonus for each of them, filed under its key, and
no other, `Sheet.bonuses_gathered`.

The walk leaves out what stands in a container that is not equipped. That it finds the right pieces
is shown for a walk that lists every piece with the containers around it, `Equipment.placed`.
-/

namespace CharacterSheet

/-! ### Keys and buckets of a table -/

namespace BonusTable

theorem mem_keys_insert {t : BonusTable} {b : Bonus} {key : String} :
    key ∈ (t.insert b).keys ↔ key ∈ t.keys ∨ key = b.feature.key := by
  simp only [keys, insert, KeyMap.mem_keys, KeyMap.contains, KeyMap.get?_alter]
  by_cases h : key = b.feature.key
  · simp [h]
  · simp [h]

/-- The keys of a table are those of its bonuses. -/
theorem mem_keys_ofList {bs : List Bonus} {key : String} :
    key ∈ (ofList bs).keys ↔ ∃ b ∈ bs, b.feature.key = key := by
  have hfold (t : BonusTable) :
      key ∈ (bs.foldl insert t).keys ↔ key ∈ t.keys ∨ ∃ b ∈ bs, b.feature.key = key := by
    induction bs generalizing t with
    | nil => simp
    | cons b rest ih =>
        rw [List.foldl_cons, ih, mem_keys_insert, List.exists_mem_cons_iff, or_assoc, eq_comm]
  have hempty : key ∉ empty.keys := List.not_mem_nil
  rw [ofList, hfold, or_iff_right hempty]

/-- All bonuses of a table, bucket by bucket. -/
def all (t : BonusTable) : List Bonus := t.bucketsOf t.keys

/-- A table holds the bonuses that were filed, each once. -/
theorem all_ofList (bs : List Bonus) : (ofList bs).all.Perm bs := by
  have hkeys : (bs.filter fun b => (ofList bs).keys.any fun key => b.feature.key == key) = bs := by
    refine List.filter_eq_self.2 fun b hb => List.any_eq_true.2 ?_
    exact ⟨b.feature.key, mem_keys_ofList.2 ⟨b, hb, rfl⟩, beq_self_eq_true _⟩
  have hbuckets : ((ofList bs).bucketsOf (ofList bs).keys).Perm
      (bs.filter fun b => (ofList bs).keys.any fun key => b.feature.key == key) :=
    bucketsOf_ofList bs (ofList bs).buckets.nodup_keys
  rw [hkeys] at hbuckets
  exact hbuckets

/-- No bucket is empty. -/
theorem bucket_ofList_ne_nil {bs : List Bonus} {key : String} (h : key ∈ (ofList bs).keys) :
    (ofList bs).bucket key ≠ [] := by
  obtain ⟨b, hb, hkey⟩ := mem_keys_ofList.1 h
  rw [bucket_ofList]
  exact List.ne_nil_of_mem (List.mem_filter.2 ⟨hb, beq_iff_eq.2 hkey⟩)

end BonusTable

/-! ### Pieces and the containers around them -/

namespace Equipment

mutual

/-- A piece and everything in it, each with the containers around it, the innermost first. -/
def placed (around : List Gear) : Equipment → List (List Gear × Equipment)
  | ⟨gear, children⟩ => (around, ⟨gear, children⟩) :: placedAll (gear :: around) children
termination_by structural e => e

def placedAll (around : List Gear) : List Equipment → List (List Gear × Equipment)
  | [] => []
  | e :: rest => placed around e ++ placedAll around rest
termination_by structural es => es

end

/-- Whether a piece is equipped together with every container around it. -/
def isInUse (p : List Gear × Equipment) : Bool := p.2.equipped && p.1.all (·.equipped)

mutual

/-- The places of a piece and its contents are those of its pieces. -/
theorem map_snd_placed : ∀ (e : Equipment) (around : List Gear),
    (placed around e).map Prod.snd = pieces e
  | ⟨gear, children⟩, around => by
      simp only [placed, pieces, List.map_cons, map_snd_placedAll children]

theorem map_snd_placedAll : ∀ (es : List Equipment) (around : List Gear),
    (placedAll around es).map Prod.snd = piecesAll es
  | [], _ => rfl
  | e :: rest, around => by
      simp only [placedAll, piecesAll, List.map_append, map_snd_placed e, map_snd_placedAll rest]

end

mutual

/-- Nothing is in use in a container that is not equipped. -/
theorem filter_isInUse_placed_of_not {around : List Gear} (h : around.all (·.equipped) = false) :
    ∀ e : Equipment, (placed around e).filter isInUse = []
  | ⟨gear, children⟩ => by
      have hinside : (gear :: around).all (·.equipped) = false := by
        rw [List.all_cons, h, Bool.and_false]
      simp [placed, isInUse, h, filter_isInUse_placedAll_of_not hinside children]

theorem filter_isInUse_placedAll_of_not {around : List Gear}
    (h : around.all (·.equipped) = false) :
    ∀ es : List Equipment, (placedAll around es).filter isInUse = []
  | [] => rfl
  | e :: rest => by
      simp [placedAll, filter_isInUse_placed_of_not h e, filter_isInUse_placedAll_of_not h rest]

end

mutual

/-- In containers that are equipped, the active pieces are those in use, each once. -/
theorem active_perm {around : List Gear} (h : around.all (·.equipped) = true) :
    ∀ e : Equipment, (active e).Perm (((placed around e).filter isInUse).map Prod.snd)
  | ⟨gear, children⟩ => by
      cases hequipped : gear.equipped with
      | true =>
          have hinside : (gear :: around).all (·.equipped) = true := by
            rw [List.all_cons, hequipped, h, Bool.and_true]
          have hchildren := activeAll_perm hinside children
          simpa [active, placed, isInUse, hequipped, h] using hchildren
      | false =>
          have hinside : (gear :: around).all (·.equipped) = false := by
            rw [List.all_cons, hequipped, Bool.false_and]
          simp [active, placed, isInUse, hequipped,
            filter_isInUse_placedAll_of_not hinside children]

theorem activeAll_perm {around : List Gear} (h : around.all (·.equipped) = true) :
    ∀ es : List Equipment, (activeAll es).Perm (((placedAll around es).filter isInUse).map Prod.snd)
  | [] => .nil
  | e :: rest => by
      have hparts := (active_perm h e).append (activeAll_perm h rest)
      simpa [activeAll, placedAll] using List.perm_append_comm.trans hparts

end

end Equipment

/-! ### What active items grant -/

/-- A feature of an item, at a level of the item. -/
structure Grant where
  item : Item
  feature : Feature
  level : Fixed

namespace Item

/-- The features of an item. A trait has a level of its own, which is zero if it has none; other
items are at level zero, and spells have no features. -/
def grants : Item → List Grant
  | ofTrait t => t.features.map fun f => ⟨ofTrait t, f, t.levels.getD 0⟩
  | ofSkill k => k.features.map fun f => ⟨ofSkill k, f, 0⟩
  | ofSpell _ => []
  | ofEquipment e => e.features.map fun f => ⟨ofEquipment e, f, 0⟩

theorem item_of_mem_grants {x : Item} {g : Grant} (h : g ∈ x.grants) : g.item = x := by
  cases x with
  | ofTrait | ofSkill | ofEquipment =>
      obtain ⟨f, -, rfl⟩ := List.mem_map.1 h
      rfl
  | ofSpell => exact absurd h List.not_mem_nil

end Item

namespace Grant

/-- The bonus that a feature gives its owner, with the owner's values for its tokens. -/
def bonus (g : Grant) : Bonus :=
  .ofFeature g.item.id (HasPlaceholders.substitute g.item.replacements g.feature) g.level

end Grant

namespace Bonus

/-- A bonus is at the level at which its feature was granted. -/
@[simp] theorem level_ofFeature (owner : ItemId) (f : Feature) (level : Fixed) :
    (ofFeature owner f level).level = level := by
  cases f <;> rfl

end Bonus

namespace Sheet

/-- The items that grant their features: traits that are not disabled, skills, and pieces of
equipment that are in use. -/
def activeItems (s : Sheet) : List Item :=
  (s.traits.filter (!·.disabled)).map .ofTrait ++ s.skills.map .ofSkill ++
    ((Equipment.placedAll [] s.equipment).filter Equipment.isInUse).map (.ofEquipment ·.2)

/-- The features that the items of a sheet grant. -/
def grants (s : Sheet) : List Grant := s.activeItems.flatMap Item.grants

theorem mem_items_of_mem_activeItems {s : Sheet} {x : Item} (h : x ∈ s.activeItems) :
    x ∈ s.items := by
  simp only [activeItems, List.mem_append, List.mem_map, List.mem_filter, or_assoc] at h
  rw [mem_items]
  obtain ⟨t, ⟨ht, -⟩, rfl⟩ | ⟨k, hk, rfl⟩ | ⟨place, ⟨hplace, -⟩, rfl⟩ := h
  · exact ht
  · exact hk
  · have hpiece : place.2 ∈ (Equipment.placedAll [] s.equipment).map Prod.snd :=
      List.mem_map_of_mem hplace
    rwa [Equipment.map_snd_placedAll] at hpiece

/-- The bonuses of a sheet are those of its grants, each once. -/
theorem grantedBonuses_perm (s : Sheet) : s.grantedBonuses.Perm (s.grants.map Grant.bonus) := by
  have htrait (t : Trait) : (Item.ofTrait t).grants.map Grant.bonus = t.bonuses := List.map_map
  have hskill (k : Skill) : (Item.ofSkill k).grants.map Grant.bonus = k.bonuses := List.map_map
  have hpiece (e : Equipment) : (Item.ofEquipment e).grants.map Grant.bonus = e.toGear.bonuses :=
    List.map_map
  have hgrants : s.grants.map Grant.bonus =
      (s.traits.filter (!·.disabled)).flatMap Trait.bonuses ++ s.skills.flatMap Skill.bonuses ++
        (((Equipment.placedAll [] s.equipment).filter Equipment.isInUse).map Prod.snd).flatMap
          (·.toGear.bonuses) := by
    simp only [grants, activeItems, List.flatMap_append, List.flatMap_map, List.map_append,
      List.map_flatMap, htrait, hskill, hpiece]
  rw [hgrants, grantedBonuses_eq]
  exact ((Equipment.activeAll_perm rfl s.equipment).flatMap_right _).append_left _

/-- If ids are different, an id names the item that it is of. -/
theorem item?_of_mem {s : Sheet} (h : s.ids.Nodup) {x : Item} (hx : x ∈ s.items) :
    s.item? x.id = some x := by
  rw [item?_eq_find?]
  exact ItemId.find?_of_mem h hx

/-- **Bonuses are gathered from the active features.** The table has one bonus for each feature that
an active item grants, with the values of the item for its tokens and at the level of the item, and
no others. Each bonus is filed under the key of its feature, and no bucket is empty. If the ids of
items are different, the owner of each bonus is the item that has the feature, also by name. -/
theorem bonuses_gathered (s : Sheet) :
    (s.gatherBonuses.bonuses.all.map fun b => (b.owner, b.feature, b.level)).Perm
      (s.grants.map fun g => (g.item.id,
        (HasPlaceholders.substitute g.item.replacements g.feature).atLevel g.level, g.level)) ∧
    (∀ key, ∀ b ∈ s.gatherBonuses.bonuses.bucket key, b.feature.key = key) ∧
    (∀ key ∈ s.gatherBonuses.bonuses.keys, s.gatherBonuses.bonuses.bucket key ≠ []) ∧
    (s.ids.Nodup → ∀ g ∈ s.grants,
      s.item? g.item.id = some g.item ∧ s.itemName? g.item.id = some g.item.displayName) := by
  refine ⟨?_, ?_, ?_, ?_⟩
  · have hbonuses : s.gatherBonuses.bonuses.all.Perm (s.grants.map Grant.bonus) :=
      (BonusTable.all_ofList s.grantedBonuses).trans s.grantedBonuses_perm
    have hgrant (g : Grant) : (g.bonus.owner, g.bonus.feature, g.bonus.level) = (g.item.id,
        (HasPlaceholders.substitute g.item.replacements g.feature).atLevel g.level, g.level) := by
      rw [Grant.bonus, Bonus.level_ofFeature]
      rfl
    simpa only [List.map_map, Function.comp_def, hgrant] using
      hbonuses.map fun b => (b.owner, b.feature, b.level)
  · intro key b hb
    rw [gatherBonuses, BonusTable.bucket_ofList] at hb
    exact beq_iff_eq.1 (List.mem_filter.1 hb).2
  · intro key hkey
    exact BonusTable.bucket_ofList_ne_nil hkey
  · intro hids g hg
    obtain ⟨x, hx, hg⟩ := List.mem_flatMap.1 hg
    have hitem := item?_of_mem hids (mem_items_of_mem_activeItems hx)
    rw [Item.item_of_mem_grants hg, itemName?, hitem]
    exact ⟨rfl, rfl⟩

/-- A sheet with a leveled trait and a disabled one, a belt with a gem that helps with the skill in
its token, and a closed box with a ring. -/
def beltSheet : Sheet where
  traits := [
    { id := ⟨1⟩, name := "Lifting ST", levels := some 3
      features := [.attributeBonus { attributeId := "st", amount := .each 1 }] },
    { id := ⟨2⟩, name := "Weak Grip", disabled := true
      features := [.attributeBonus { attributeId := "st", amount := .flat (-2) }] }]
  equipment := [
    { id := ⟨3⟩, name := "Belt"
      children := [
        { id := ⟨4⟩, name := "Gem", replacements := KeyMap.empty.insert "skill" "Climbing"
          features := [.skillBonus (.named "@skill@")] }] },
    { id := ⟨5⟩, name := "Box", equipped := false
      children := [
        { id := ⟨6⟩, name := "Ring", features := [.attributeBonus { attributeId := "iq" }] }] }]

theorem beltSheet_bonuses_gathered :
    beltSheet.ids.Nodup ∧
      beltSheet.gatherBonuses.bonuses.all = [
        ⟨⟨1⟩, .attributeBonus
          { attributeId := "st", amount := { amount := 1, perLevel := true, level := 3 } }⟩,
        ⟨⟨4⟩, .skillBonus (.named "Climbing")⟩] ∧
      (∀ key ∈ beltSheet.gatherBonuses.bonuses.keys,
        beltSheet.gatherBonuses.bonuses.bucket key ≠ []) ∧
      beltSheet.grants.map (fun g => (g.item.id.number, beltSheet.itemName? g.item.id)) =
        [(1, some "Lifting ST"), (4, some "Gem")] ∧
      ∀ g ∈ beltSheet.grants, beltSheet.itemName? g.item.id = some g.item.displayName := by
  have hids : beltSheet.ids.Nodup := by decide
  obtain ⟨-, -, hbuckets, hnames⟩ := bonuses_gathered beltSheet
  exact ⟨hids, by decide, hbuckets, by decide, fun g hg => (hnames hids g hg).2⟩

end Sheet

end CharacterSheet
