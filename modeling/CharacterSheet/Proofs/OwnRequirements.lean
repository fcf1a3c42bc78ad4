import CharacterSheet.Proofs.ItemIds
import CharacterSheet.Proofs.Verdicts
import CharacterSheet.Sheet.Edit

/-!
# An item and its own requirements

Prerequisites are evaluated with the item that they belong to excluded. For a trait, a skill or a
spell this is to evaluate them as if the item were not there: `Sheet.evaluate_remove` compares with
the sheet from which the item was taken away, all else as it was. Each kind of requirement ignores
the excluded item in its own way, `Requirement.isMet_remove`, and a tree sees nothing else of it.
-/

namespace CharacterSheet

namespace Equipment

theorem self_mem_pieces (e : Equipment) : e ∈ e.pieces := by
  obtain ⟨gear, children⟩ := e
  exact List.mem_cons_self

theorem mem_piecesAll {e : Equipment} {es : List Equipment} (h : e ∈ es) : e ∈ piecesAll es := by
  rw [piecesAll_eq_flatMap]
  exact List.mem_flatMap_of_mem h e.self_mem_pieces

end Equipment

namespace Sheet

/-! ### Taking an item away -/

/-- No piece of equipment, at any depth, has the id. -/
def FreeOfPiece (s : Sheet) (id : ItemId) : Prop := ∀ e ∈ s.pieces, e.id ≠ id

/-- If items have different ids, the id of an item that is no piece of equipment is not that of a
piece. -/
theorem freeOfPiece_of_nodup_ids {s : Sheet} (h : s.ids.Nodup) {x : Item} (hx : x ∈ s.items)
    (hkind : x.kind ≠ .equipment) : s.FreeOfPiece x.id := by
  intro e he hid
  have hsame : Item.ofEquipment e = x :=
    List.inj_on_of_nodup_map h (mem_items.2 he) hx hid
  exact hkind (congrArg Item.kind hsame.symm)

section Remove

variable {s : Sheet} {id : ItemId} (h : s.FreeOfPiece id)
include h

theorem equipment_remove : (s.remove id).equipment = s.equipment :=
  List.filter_eq_self.2 fun e he => by simpa using h e (Equipment.mem_piecesAll he)

theorem pieces_remove : (s.remove id).pieces = s.pieces :=
  congrArg Equipment.piecesAll (equipment_remove h)

theorem filter_pieces : s.pieces.filter (·.id != id) = s.pieces :=
  List.filter_eq_self.2 fun e he => by simpa using h e he

theorem equipment?_eq_none : s.equipment? id = none :=
  List.find?_eq_none.2 fun e he => by simpa using h e he

/-- The items that are left are those with other ids. -/
theorem items_remove : (s.remove id).items = s.items.filter (·.id != id) := by
  rw [items, pieces_remove h, ← filter_pieces h]
  simp only [items, List.filter_append, List.filter_map]
  rfl

end Remove

/-- The items that are left when an item is taken away are the others. -/
theorem items_remove_of_mem {s : Sheet} (h : s.ids.Nodup) {x : Item} (hx : x ∈ s.items)
    (hkind : x.kind ≠ .equipment) : (s.remove x.id).items = s.items.erase x := by
  rw [items_remove (freeOfPiece_of_nodup_ids h hx hkind), List.Nodup.erase_eq_filter h.of_map]
  refine List.filter_congr fun y hy => ?_
  rw [Bool.eq_iff_iff, bne_iff_ne, bne_iff_ne]
  exact not_congr ⟨fun hid => List.inj_on_of_nodup_map h hy hx hid, fun hyx => by rw [hyx]⟩

/-- Attributes keep their values: the bonuses stay as they were gathered. -/
theorem attributeCurrent_remove (s : Sheet) (id : ItemId) (attributeId : String) :
    (s.remove id).attributeCurrent attributeId = s.attributeCurrent attributeId := by
  simp only [attributeCurrent, bonusTotal, Bonus.total_fst]
  rfl

end Sheet

/-! ### Requirements -/

namespace Requirement

/-- Nothing is excluded where the item is not there. -/
theorem isMet_remove (r : Requirement) {s : Sheet} {id : ItemId} (h : s.FreeOfPiece id) :
    r.isMet s (some id) = r.isMet (s.remove id) none := by
  have hsome (a : ItemId) : (some a != some id) = (a != id) := rfl
  have hnone (a : ItemId) : (some a != none) = true := rfl
  refine congrArg (· == r.has) ?_
  cases r with
  | ofTrait r =>
      simp only [holds, TraitRequirement.holds, Sheet.remove, List.any_filter, hsome, hnone,
        Bool.true_and, Bool.and_assoc]
  | ofAttribute r =>
      simp only [holds, AttributeRequirement.holds, Sheet.attributeCurrent_remove]
  | ofQuantity r | ofWeight r =>
      -- The excluded item is no container, and without one the condition does not hold either.
      simp only [holds, QuantityRequirement.holds, WeightRequirement.holds, Sheet.containerHolds,
        Option.bind_some, Sheet.equipment?_eq_none h, Option.bind_none]
  | ofSkill r =>
      simp only [holds, SkillRequirement.holds, Sheet.remove, List.any_filter, hsome, hnone,
        Bool.true_and, Bool.and_assoc]
  | ofSpell r =>
      simp only [holds, SpellRequirement.holds, SpellRequirement.count, Sheet.remove,
        List.filter_filter, hsome, hnone, Bool.true_and]
  | ofEquipped r =>
      simp only [holds, EquippedRequirement.holds, Sheet.pieces_remove h]
      conv_rhs => rw [← Sheet.filter_pieces h]
      simp only [List.any_filter, hsome, hnone, Bool.true_and, Bool.and_assoc]

end Requirement

namespace Sheet

theorem agreesOnRequirements_remove {s : Sheet} {id : ItemId} (h : s.FreeOfPiece id) :
    s.AgreesOnRequirements (some id) (s.remove id) none where
  isMet r := r.isMet_remove h
  line r := by cases r <;> rfl
  techLevelValue := rfl

/-- **An item never counts toward its own requirements.** If ids are different, a tree evaluated with
a trait, a skill or a spell excluded has the verdict and the explanation that it has on the sheet
with all items but this one, and with its bonuses and levels as they were. -/
theorem evaluate_remove {s : Sheet} (h : s.ids.Nodup) {x : Item} (hx : x ∈ s.items)
    (hkind : x.kind ≠ .equipment) :
    (s.remove x.id).items = s.items.erase x ∧ (s.remove x.id).bonuses = s.bonuses ∧
      ∀ (p : Prereq) (tooltip : Option String) (lead : String),
        p.evaluate s (some x.id) tooltip lead = p.evaluate (s.remove x.id) none tooltip lead :=
  ⟨items_remove_of_mem h hx hkind, rfl,
    Prereq.evaluate_congr (agreesOnRequirements_remove (freeOfPiece_of_nodup_ids h hx hkind))⟩

/-- A spell that is one of two colleges on the sheet. -/
def fireball : Spell where
  id := ⟨3⟩
  name := "Fireball"
  college := ["Fire"]
  difficulty := ⟨"iq", .hard⟩

/-- A sheet with an item of each kind, and with a gem in a staff. -/
def wizardSheet : Sheet where
  traits := [{ id := ⟨1⟩, name := "Magery" }]
  skills := [{ id := ⟨2⟩, name := "Thaumatology", difficulty := ⟨"iq", .veryHard⟩ }]
  spells := [fireball,
    { id := ⟨4⟩, name := "Light", college := ["Light"], difficulty := ⟨"iq", .hard⟩ }]
  equipment := [{ id := ⟨5⟩, name := "Staff", children := [{ id := ⟨6⟩, name := "Gem" }] }]

/-- A trait, a skill, two colleges or a container with nothing in it, and a gem in use. -/
def needsColleges : Prereq :=
  .list true .any [
    .leaf (.ofTrait { name := .is "Magery" }),
    .leaf (.ofSkill { name := .is "Thaumatology" }),
    .list false .any [
      .leaf (.ofSpell
        { comparison := .collegeCount, quantity := { compare := .atLeast, qualifier := 2 } }),
      .leaf (.ofQuantity { qualifier := { compare := .equals, qualifier := 0 } })],
    .leaf (.ofEquipped { name := .is "Gem" })]

/-- With the spell both colleges are there; for its own requirements there is one. -/
theorem wizardSheet_evaluate_remove :
    wizardSheet.ids.Nodup ∧ Item.ofSpell fireball ∈ wizardSheet.items ∧
      (needsColleges.evaluate wizardSheet none (some "") "").1 = true ∧
      needsColleges.evaluate wizardSheet (some fireball.id) (some "") "" =
        needsColleges.evaluate (wizardSheet.remove fireball.id) none (some "") "" ∧
      needsColleges.evaluate wizardSheet (some fireball.id) (some "") "" =
        (false, some ("Requires all of:" ++ "\n  Requires at least one of:" ++
          "\n    has a college count which at least 2" ++
          "\n    has a contained quantity which is 0")) :=
  ⟨by decide, by decide, by decide,
    (evaluate_remove (s := wizardSheet) (x := .ofSpell fireball) (by decide) (by decide)
      (by decide)).2.2 needsColleges (some "") "",
    by decide⟩

end Sheet

end CharacterSheet
