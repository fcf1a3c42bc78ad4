import CharacterSheet.Proofs.ItemIds
import CharacterSheet.Proofs.Verdicts
import Mathlib.Data.List.Perm.Subperm

/-!
# Recorded reasons

Recalculation records with every item why its prerequisites are not met. Reasons of pieces of
equipment go through a table by id, so they come to the right pieces because ids are not shared:
items that a sheet got by adding have ids of their own, whatever else was done to it,
`Sheet.Built.nodup_ids`. So each item, at every depth, has the explanation that its own tree gives
on the recalculated sheet, `Sheet.reasons_recalculate`. As for all laws of ids, this is read for
sheets with fewer than `2 ^ 32` ids.
-/

namespace CharacterSheet

/-- The reason with an item is what its own prerequisites give on a sheet, the item excluded: none
if it has no prerequisites or they are met, and their explanation otherwise. -/
def Item.Explained (s : Sheet) (x : Item) : Prop :=
  match x.prereqs with
  | none => x.unsatisfiedReason = none
  | some l =>
    let verdict := l.evaluate s (some x.id) (some "") Sheet.explanationLead
    x.unsatisfiedReason = if verdict.1 then none else verdict.2

namespace Item

theorem explained_iff {s : Sheet} {x : Item} :
    x.Explained s ↔ x.unsatisfiedReason = s.unsatisfiedReason x.prereqs x.id := by
  rw [Explained, Sheet.unsatisfiedReason]
  cases x.prereqs with
  | none => rfl
  | some l =>
    simp only [Option.bind_some]
    obtain ⟨verdict, explanation⟩ :=
      l.evaluate s (some x.id) (some "") Sheet.explanationLead
    cases verdict <;> rfl

/-- The values of items with the reasons written that they have on a sheet. -/
theorem unsatisfiedReason_reasons (s : Sheet) (x : Item) :
    ((ItemMap.reasons s).item x).unsatisfiedReason = s.unsatisfiedReason x.prereqs x.id := by
  rcases x with _ | _ | _ | ⟨gear, children⟩ <;> rfl

theorem prereqs_forgetDerived (x : Item) :
    (ItemMap.forgetDerived.item x).prereqs = x.prereqs := by
  rcases x with _ | _ | _ | ⟨gear, children⟩ <;> rfl

theorem prereqs_reasons (s : Sheet) (x : Item) :
    ((ItemMap.reasons s).item x).prereqs = x.prereqs := by
  rcases x with _ | _ | _ | ⟨gear, children⟩ <;> rfl

end Item

namespace Sheet

open ItemId (following)

/-- Sheets that were built by adding items. Between the additions anything may be done that gives
no ids: items and whatever else stands on the sheet may change, and items may be moved or taken
away. -/
inductive Built : Sheet → Prop where
  | new (settings : SheetSettings) : Built { settings }
  | add {s : Sheet} (h : s.Built) (x : Item) : Built (s.addItem x).1
  | change {s t : Sheet} (h : s.Built) (hids : t.ids.Subperm s.ids) (hlast : t.lastId = s.lastId) :
    Built t

theorem Built.setAttribute {s : Sheet} (h : s.Built) (id name : String) (base : Fixed) :
    (s.setAttribute id name base).Built :=
  h.change (List.Subperm.refl s.ids) rfl

/-- Items that came by adding have ids of their own, and none above the last one given. -/
theorem Built.nodup_ids {s : Sheet} (h : s.Built) :
    s.ids.Nodup ∧ ∀ id ∈ s.ids, id.number ≤ s.lastId := by
  induction h with
  | new settings => exact ⟨List.nodup_nil, fun _ hid => absurd hid List.not_mem_nil⟩
  | @add s _ x ih =>
    obtain ⟨hnodup, hle⟩ := ih
    have hids := s.ids_addItem x
    have hnew {id : ItemId} (hid : id ∈ following s.lastId x.parts.length) :=
      ItemId.mem_following.1 hid
    rw [(s.addItem_spec x).2.1]
    refine ⟨hids.nodup_iff.2 (List.nodup_append.2 ⟨hnodup, ItemId.nodup_following _ _, ?_⟩), ?_⟩
    · -- New ids are above the last one that was given.
      rintro id hid _ hid' rfl
      exact Nat.not_lt.2 (hle id hid) (hnew hid').1
    · intro id hid
      rcases List.mem_append.1 (hids.mem_iff.1 hid) with hid | hid
      · exact Nat.le_trans (hle id hid) (Nat.le_add_right _ _)
      · exact (hnew hid).2
  | change _ hids hlast ih =>
    obtain ⟨hnodup, hle⟩ := ih
    obtain ⟨kept, hperm, hsub⟩ := hids
    refine ⟨hperm.nodup_iff.1 (hnodup.sublist hsub), fun id hid => ?_⟩
    exact hlast ▸ hle id (hsub.subset (hperm.mem_iff.2 hid))

theorem distinctPieces_of_nodup_ids {s : Sheet} (h : s.ids.Nodup) : s.DistinctPieces := by
  have hids : Equipment.ids s.pieces = (s.pieces.map Item.ofEquipment).map Item.id := by
    rw [List.map_map]
    rfl
  rw [DistinctPieces, hids]
  exact h.sublist ((List.sublist_append_right _ _).map Item.id)

/-- Recalculated items are the items with levels, and with the reasons that they have then. -/
theorem items_recalculate {s : Sheet} (h : s.ids.Nodup) :
    s.recalculate.items = s.leveled.items.map (ItemMap.reasons s.leveled).item := by
  have hdistinct : s.leveled.DistinctPieces :=
    (distinctPieces_mapItems (ItemMap.keepsNames_levels s.gatherBonuses)).2
      (distinctPieces_of_nodup_ids h)
  rw [recalculate_eq, updateReasons_eq hdistinct, items_mapItems]

/-- **Every item gets its own verdict.** On a recalculated sheet that was built by adding items,
each item, at every depth of equipment, has no reason recorded if it has no prerequisites or they
are met, and otherwise the explanation of its own tree, on the sheet with its new bonuses and levels
and with the item itself excluded. No item is lost or moved, and each keeps its prerequisites. -/
theorem reasons_recalculate {s : Sheet} (h : s.Built) :
    (∀ x ∈ s.recalculate.items, x.Explained s.recalculate) ∧
      s.recalculate.items.map (fun x => (x.kind, x.id, x.prereqs)) =
        s.items.map fun x => (x.kind, x.id, x.prereqs) := by
  constructor
  · intro x hx
    rw [items_recalculate h.nodup_ids.1] at hx
    obtain ⟨y, -, rfl⟩ := List.mem_map.1 hx
    rw [Item.explained_iff, Item.unsatisfiedReason_reasons, Item.prereqs_reasons,
      (ItemMap.keepsNames_reasons s.leveled).id_item, unsatisfiedReason_recalculate_eq]
  · -- Kinds, ids and prerequisites are left when what recalculation writes is forgotten.
    have hforget (t : Sheet) : t.items.map (fun x => (x.kind, x.id, x.prereqs)) =
        (t.items.map ItemMap.forgetDerived.item).map fun x => (x.kind, x.id, x.prereqs) := by
      rw [List.map_map]
      refine List.map_congr_left fun x _ => ?_
      rw [Function.comp_apply, ItemMap.keepsInputs_forgetDerived.id_item,
        Item.prereqs_forgetDerived]
      cases x <;> rfl
    rw [hforget, forgetDerived_items_recalculate, ← hforget]

/-- Strength of at least twelve. -/
def needsStrength : PrereqList where
  members := [.leaf (.ofAttribute
    { which := "st", qualifier := { compare := .atLeast, qualifier := 12 } })]

/-- A skill in the sword at level fourteen. -/
def needsSword : PrereqList where
  members := [.leaf (.ofSkill
    { name := .is "Broadsword", level := { compare := .atLeast, qualifier := 14 } })]

/-- A sheet with a skill at level fourteen, a trait that needs it, and a rack with an axe for which
the character is too weak. -/
def rackSheet : Sheet :=
  let s : Sheet := ({ } : Sheet).setAttribute "dx" "Dexterity" 12
  let s := s.setAttribute "st" "Strength" 10
  let s := (s.addItem (.ofTrait { name := "Weapon Master", prereqs := some needsSword })).1
  let s := (s.addItem (.ofEquipment
    { name := "Rack", children := [{ name := "Great Axe", prereqs := some needsStrength }] })).1
  (s.addItem (.ofSkill { name := "Broadsword", difficulty := ⟨"dx", .average⟩, points := 8 })).1

theorem rackSheet_built : rackSheet.Built :=
  ((((Built.new {}).setAttribute "dx" "Dexterity" 12).setAttribute "st" "Strength" 10).add _
    |>.add _).add _

theorem rackSheet_explained :
    rackSheet.Built ∧ (∀ x ∈ rackSheet.recalculate.items, x.Explained rackSheet.recalculate) ∧
      rackSheet.recalculate.items.map (fun x => (x.id.number, x.unsatisfiedReason)) =
        [(1, none), (4, none), (2, none),
          (3, some ("\n• Requires all of:" ++ "\n  • has Strength which at least 12"))] :=
  ⟨rackSheet_built, (reasons_recalculate rackSheet_built).1, by decide⟩

end Sheet

end CharacterSheet
