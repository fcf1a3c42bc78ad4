import CharacterSheet.Proofs.Verdicts

/-!
# Source state and derived state

A sheet stores what is derived from it next to its source: the table of bonuses, the levels of
skills and spells, and the reasons why prerequisites are not met. Recalculation reads the
source only, and writes derived state only. So sheets with the same source come to the same
state, whatever stale state they held, and to recalculate twice is to recalculate once:
`recalculate_eq_iff_sourceState_eq`.

Each step of the pass writes over what it does not read. Bonuses are filed anew; levels are
computed from bonuses and the source, and reasons from levels, bonuses and the source.
-/

namespace CharacterSheet

open ItemMap (forgetPrereqs forgetReasons forgetDerived)

/-! ### Recorded reasons are no input -/

namespace Equipment

mutual

/-- The reasons that stood on pieces of equipment are written over. -/
theorem writeReasons_forgetReasons :
    ∀ (e : Equipment) (r : Reasons),
      writeReasons r (mapGear forgetReasons.gear e) = writeReasons r e
  | ⟨gear, children⟩, r => by
      have hid : (forgetReasons.gear gear).id = gear.id := rfl
      simp only [mapGear, writeReasons, hid, writeReasonsAll_forgetReasons children _]
      rfl

theorem writeReasonsAll_forgetReasons :
    ∀ (es : List Equipment) (r : Reasons),
      writeReasonsAll r (mapGearAll forgetReasons.gear es) = writeReasonsAll r es
  | [], _ => rfl
  | e :: rest, r => by
      simp only [mapGearAll, writeReasonsAll, writeReasons_forgetReasons e _,
        writeReasonsAll_forgetReasons rest _]

end

end Equipment

namespace Sheet

/-- Verdicts do not look at the reasons that stood on items. -/
theorem unsatisfiedReason_forgetReasons (s : Sheet) :
    (s.mapItems forgetReasons).unsatisfiedReason = s.unsatisfiedReason := by
  have hsame : (s.mapItems forgetReasons).mapItems forgetPrereqs = s.mapItems forgetPrereqs := by
    rw [mapItems_mapItems]
    rfl
  rw [← unsatisfiedReason_forgetPrereqs, hsame, unsatisfiedReason_forgetPrereqs]

theorem equipmentReasons_forgetReasons (s : Sheet) :
    (s.mapItems forgetReasons).equipmentReasons = s.equipmentReasons := by
  simp only [equipmentReasons, pieces_mapItems, List.foldl_map, Equipment.mapGear_toGear,
    unsatisfiedReason_forgetReasons]
  rfl

/-- The reasons that stood on items are written over. -/
theorem forgetReasons_updateReasons (s : Sheet) :
    (s.mapItems forgetReasons).updateReasons = s.updateReasons := by
  rw [updateReasons, updateReasons, equipmentReasons_forgetReasons,
    unsatisfiedReason_forgetReasons]
  simp only [mapItems, List.map_map, Equipment.writeReasonsAll_forgetReasons]
  rfl

/-! ### Source state -/

/-- The sheet without its derived state: without the table of bonuses, the levels of skills and
spells, and the reasons why prerequisites are not met. -/
def sourceState (s : Sheet) : Sheet := { s.mapItems forgetDerived with bonuses := .empty }

/-- Recalculation reads no derived state. -/
theorem recalculate_sourceState (s : Sheet) : s.sourceState.recalculate = s.recalculate := by
  have hleveled : s.sourceState.leveled = s.leveled.mapItems forgetReasons :=
    leveled_mapItems (g := forgetReasons) ItemMap.keepsInputs_forgetDerived rfl (fun _ _ => rfl)
      (fun _ _ => rfl) rfl s
  rw [recalculate_eq, recalculate_eq, hleveled, forgetReasons_updateReasons]

/-- Recalculation writes derived state only. -/
theorem sourceState_recalculate (s : Sheet) : s.recalculate.sourceState = s.sourceState := by
  rw [sourceState, recalculate_forgetDerived]
  rfl

/-- **Recalculation is determined by source state.** Two sheets come to the same state exactly if
they agree on everything but derived state; recalculation changes nothing else, and doing it again
changes nothing. -/
theorem recalculate_eq_iff_sourceState_eq (s t : Sheet) :
    (s.recalculate = t.recalculate ↔ s.sourceState = t.sourceState) ∧
      s.recalculate.sourceState = s.sourceState ∧ s.recalculate.recalculate = s.recalculate := by
  refine ⟨⟨fun h => ?_, fun h => ?_⟩, sourceState_recalculate s, ?_⟩
  · rw [← sourceState_recalculate s, h, sourceState_recalculate]
  · rw [← recalculate_sourceState s, h, recalculate_sourceState]
  · rw [← recalculate_sourceState s.recalculate, sourceState_recalculate, recalculate_sourceState]

end Sheet

end CharacterSheet
