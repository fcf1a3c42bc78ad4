import CharacterSheet.Proofs.Verdicts

/-!
# Prerequisites with chosen values

An item that is copied from a library keeps the tokens of its prerequisites and has values
for them apart. Recalculation judges the tree with the tokens in it. This module compares
that with judging the tree in which the values are written: it says exactly when the two
agree, and shows a sheet on which they do not.
-/

namespace CharacterSheet

open HasPlaceholders (substitute)

namespace Item

/-- The values that an item has for its tokens. -/
def replacements : Item → Replacements
  | ofTrait t => t.replacements
  | ofSkill k => k.replacements
  | ofSpell p => p.replacements
  | ofEquipment e => e.replacements

end Item

namespace ItemMap

/-- Writes the values of an item for the tokens of its prerequisites. -/
def substitutePrereqs (id : ItemId) : ItemMap where
  trait t := if t.id = id then { t with prereqs := substitute t.replacements t.prereqs } else t
  skill k := if k.id = id then { k with prereqs := substitute k.replacements k.prereqs } else k
  spell p := if p.id = id then { p with prereqs := substitute p.replacements p.prereqs } else p
  gear g := if g.id = id then { g with prereqs := substitute g.replacements g.prereqs } else g

theorem keepsNames_substitutePrereqs (id : ItemId) : (substitutePrereqs id).KeepsNames where
  id_item x := by
    rcases x with _ | _ | _ | ⟨gear, children⟩ <;>
      simp only [item, substitutePrereqs, Equipment.mapGear] <;> split <;> rfl
  displayName_item x := by
    rcases x with _ | _ | _ | ⟨gear, children⟩ <;>
      simp only [item, substitutePrereqs, Equipment.mapGear] <;> split <;> rfl

/-- The values are written to prerequisites only. -/
theorem forgetPrereqs_comp_substitutePrereqs (id : ItemId) :
    forgetPrereqs.comp (substitutePrereqs id) = forgetPrereqs := by
  simp only [comp, forgetPrereqs, substitutePrereqs, mk.injEq]
  refine ⟨?_, ?_, ?_, ?_⟩ <;> funext x <;> simp only [Function.comp] <;> split <;> rfl

theorem prereqs_substitutePrereqs (x : Item) :
    ((substitutePrereqs x.id).item x).prereqs = substitute x.replacements x.prereqs := by
  rcases x with _ | _ | _ | ⟨gear, children⟩ <;>
    simp [item, substitutePrereqs, Equipment.mapGear, Item.id, Item.prereqs, Item.replacements]

end ItemMap

namespace Sheet

/-- Two trees have the same verdict and, when they are not met, the same explanation. -/
def JudgesAlike (s : Sheet) (id : ItemId) (l l' : PrereqList) : Prop :=
  l.toPrereq.holds s (some id) = l'.toPrereq.holds s (some id) ∧
    (l'.toPrereq.holds s (some id) = false →
      l.toPrereq.explanation s (some id) explanationLead =
        l'.toPrereq.explanation s (some id) explanationLead)

theorem unsatisfiedReason_eq_iff {s : Sheet} {id : ItemId} {l l' : PrereqList} :
    s.unsatisfiedReason (some l) id = s.unsatisfiedReason (some l') id ↔ s.JudgesAlike id l l' := by
  rw [unsatisfiedReason_some, unsatisfiedReason_some, JudgesAlike]
  cases l.toPrereq.holds s (some id) <;> cases l'.toPrereq.holds s (some id) <;> simp

/-- **When chosen values reach prerequisites.** The reason that is recorded for an item is the
one for its prerequisites with the chosen values written exactly if the tree with the tokens
is judged alike on the recalculated sheet. -/
theorem reasonOf_substitutePrereqs_iff {s : Sheet} {id : ItemId} {x : Item}
    (h : s.DistinctPieces) (hx : s.item? id = some x) :
    (s.mapItems (.substitutePrereqs id)).recalculate.reasonOf id = s.recalculate.reasonOf id ↔
      ∀ l, x.prereqs = some l →
        s.recalculate.JudgesAlike id (substitute x.replacements l) l := by
  have hnames := ItemMap.keepsNames_substitutePrereqs id
  have hsame : (s.mapItems (.substitutePrereqs id)).mapItems .forgetPrereqs =
      s.mapItems .forgetPrereqs := by
    rw [mapItems_mapItems, ItemMap.forgetPrereqs_comp_substitutePrereqs]
  have hitem : (s.mapItems (.substitutePrereqs id)).item? id =
      some ((ItemMap.substitutePrereqs id).item x) := by
    rw [item?_mapItems hnames, hx, Option.map_some]
  have hprereqs : ((ItemMap.substitutePrereqs id).item x).prereqs =
      substitute x.replacements x.prereqs :=
    id_of_item? hx ▸ ItemMap.prereqs_substitutePrereqs x
  -- Both trees are judged on sheets that differ in prerequisites only.
  rw [reasonOf_recalculate ((distinctPieces_mapItems hnames).2 h) hitem,
    reasonOf_recalculate h hx, unsatisfiedReason_recalculate_congr hsame, hprereqs]
  cases x.prereqs with
  | none => exact ⟨fun _ l hl => absurd hl (Option.some_ne_none l).symm, fun _ => rfl⟩
  | some l =>
      have hsome : substitute x.replacements (some l) = some (substitute x.replacements l) := rfl
      rw [hsome, unsatisfiedReason_eq_iff]
      simp only [Option.some.injEq, forall_eq']

/-- The master of a weapon that is chosen on the sheet; here it is `Broadsword`. -/
def weaponMaster : Trait where
  id := ⟨1⟩
  name := "Weapon Master (@Weapon@)"
  prereqs := some
    { members := [.leaf (.ofSkill
        { name := .is "@Weapon@", level := { compare := .atLeast, qualifier := 14 } })] }
  replacements := KeyMap.empty.insert "Weapon" "Broadsword"

/-- A sheet with the master and with `Broadsword` at level fourteen. -/
def swordSheet : Sheet where
  attributes := KeyMap.empty.insert "dx" { name := "Dexterity", base := 12 }
  traits := [weaponMaster]
  skills := [{ id := ⟨2⟩, name := "Broadsword", difficulty := ⟨"dx", .average⟩, points := 8 }]

theorem swordSheet_reasonOf_iff :
    swordSheet.DistinctPieces ∧ swordSheet.item? ⟨1⟩ = some (.ofTrait weaponMaster) ∧
      ((swordSheet.mapItems (.substitutePrereqs ⟨1⟩)).recalculate.reasonOf ⟨1⟩ =
          swordSheet.recalculate.reasonOf ⟨1⟩ ↔
        ∀ l, weaponMaster.prereqs = some l →
          swordSheet.recalculate.JudgesAlike ⟨1⟩ (substitute weaponMaster.replacements l) l) :=
  ⟨by decide, rfl,
    reasonOf_substitutePrereqs_iff (s := swordSheet) (x := .ofTrait weaponMaster) (by decide) rfl⟩

/-- The chosen value meets the prerequisite, but a skill with the name of the token is looked
for and not found. -/
theorem swordSheet_reasonOf :
    (swordSheet.mapItems (.substitutePrereqs ⟨1⟩)).recalculate.reasonOf ⟨1⟩ = none ∧
      swordSheet.recalculate.reasonOf ⟨1⟩ = some
        ("\n• Requires all of:" ++
          "\n  • has a skill whose name is \"@Weapon@\", and level at least 14") := by
  decide

end Sheet

end CharacterSheet
