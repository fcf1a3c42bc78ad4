import CharacterSheet.Proofs.FixedArithmetic
import CharacterSheet.Sheet.Prerequisites

/-!
# The weight that a container holds

A requirement on contained weight compares what its container weighs with all that is in it, less
the unit weight of the container. The first counts the container as often as its quantity says, the
second once. So the compared weight is that of the contents exactly if the quantity makes no
difference to what the container itself weighs, `Sheet.contained_weight_judged_iff`.
-/

namespace CharacterSheet

namespace Equipment

/-- The extended weights of the pieces directly in a container, added up. -/
def contentWeight (e : Equipment) : Weight := Weight.sum (e.children.map extendedWeight)

theorem extendedWeightFrom_eq_foldl (sum : Weight) (es : List Equipment) :
    extendedWeightFrom sum es = (es.map extendedWeight).foldl (· + ·) sum := by
  induction es generalizing sum with
  | nil => rfl
  | cons e rest ih => rw [extendedWeightFrom, ih, List.map_cons, List.foldl_cons]

/-- A piece weighs what its number of them weighs and what is in it. -/
theorem extendedWeight_eq (e : Equipment) :
    e.extendedWeight = e.weight * e.quantity + e.contentWeight := by
  obtain ⟨gear, children⟩ := e
  rw [extendedWeight, extendedWeightFrom_eq_foldl]
  rfl

/-- The weight of a container with its contents stays in range, and so does what is left of it
without the unit weight. -/
structure WeighsInRange (e : Equipment) : Prop where
  extended : Fixed.InRange ((e.weight * e.quantity).pounds.raw + e.contentWeight.pounds.raw)
  contained : Fixed.InRange
    ((e.weight * e.quantity).pounds.raw + e.contentWeight.pounds.raw - e.weight.pounds.raw)

end Equipment

namespace WeightRequirement

open Equipment (WeighsInRange)

variable {e : Equipment}

/-- What is compared exceeds the weight of the contents as the weight of the containers exceeds that
of one of them. -/
theorem raw_containedWeight (h : e.WeighsInRange) :
    (containedWeight e).pounds.raw = e.contentWeight.pounds.raw +
      ((e.weight * e.quantity).pounds.raw - e.weight.pounds.raw) := by
  have hextended : e.extendedWeight.pounds.raw =
      (e.weight * e.quantity).pounds.raw + e.contentWeight.pounds.raw := by
    rw [e.extendedWeight_eq]
    exact h.extended.raw_clamp
  calc (containedWeight e).pounds.raw
      = (Fixed.clamp (e.extendedWeight.pounds.raw - e.weight.pounds.raw)).raw := rfl
    _ = (e.weight * e.quantity).pounds.raw + e.contentWeight.pounds.raw -
          e.weight.pounds.raw := by rw [hextended, h.contained.raw_clamp]
    _ = _ := by omega

theorem containedWeight_eq_contentWeight_iff (h : e.WeighsInRange) :
    containedWeight e = e.contentWeight ↔ e.weight * e.quantity = e.weight := by
  rw [Weight.eq_iff, Weight.eq_iff, raw_containedWeight h]
  omega

/-- Weights that meet the same conditions are the same. -/
theorem accepts_eq_iff {v w : Weight} :
    (∀ r : WeightRequirement, r.qualifier.accepts v = r.qualifier.accepts w) ↔ v = w := by
  refine ⟨fun h => ?_, fun h r => by rw [h]⟩
  have hequals := h { qualifier := { compare := .equals, qualifier := w } }
  have hsame : (v.pounds == w.pounds) = true := hequals.trans (beq_self_eq_true w.pounds)
  exact Weight.eq_iff.2 (congrArg Fixed.raw (beq_iff_eq.1 hsame))

end WeightRequirement

namespace Sheet

open WeightRequirement (containedWeight)

/-- **What a requirement on contained weight compares.** It is the weight of the contents and, beyond
that, what the quantity of the container adds to one unit weight. So requirements judge the contents
exactly if the quantity adds nothing. -/
theorem contained_weight_judged_iff {s : Sheet} {id : ItemId} {e : Equipment}
    (he : s.equipment? id = some e) (hcontainer : e.isContainer = true)
    (hrange : e.WeighsInRange) :
    (∀ r : WeightRequirement, r.holds s (some id) = r.qualifier.accepts (containedWeight e)) ∧
    (containedWeight e).pounds.raw = e.contentWeight.pounds.raw +
      ((e.weight * e.quantity).pounds.raw - e.weight.pounds.raw) ∧
    ((∀ r : WeightRequirement, r.holds s (some id) = r.qualifier.accepts e.contentWeight) ↔
      e.weight * e.quantity = e.weight) := by
  have hholds (r : WeightRequirement) :
      r.holds s (some id) = r.qualifier.accepts (containedWeight e) := by
    rw [WeightRequirement.holds, containerHolds, Option.bind_some, he]
    exact if_pos hcontainer
  refine ⟨hholds, WeightRequirement.raw_containedWeight hrange, ?_⟩
  simp only [hholds]
  rw [WeightRequirement.accepts_eq_iff,
    WeightRequirement.containedWeight_eq_contentWeight_iff hrange]

/-- A chest with a lamp and two bags in it. What is in the bags is there once. -/
def chest : Equipment where
  id := ⟨1⟩
  name := "Chest"
  weight := ⟨10⟩
  children := [
    { id := ⟨2⟩, name := "Bag", weight := ⟨1⟩, quantity := 2
      children := [{ id := ⟨3⟩, name := "Rock", weight := ⟨4⟩ }] },
    { id := ⟨4⟩, name := "Lamp", weight := ⟨2⟩ }]

/-- A sheet with the chest. -/
def storeSheet : Sheet where
  equipment := [chest]

/-- The chest is judged by what is in it. -/
theorem storeSheet_judged_iff :
    chest.contentWeight = ⟨8⟩ ∧
      ((∀ r : WeightRequirement, r.holds storeSheet (some ⟨1⟩) = r.qualifier.accepts ⟨8⟩) ↔
        chest.weight * chest.quantity = chest.weight) ∧
      chest.weight * chest.quantity = chest.weight := by
  have hchest : storeSheet.equipment? ⟨1⟩ = some chest := rfl
  have hcontents : chest.contentWeight = ⟨8⟩ := by decide
  have hiff := (contained_weight_judged_iff hchest rfl ⟨by decide, by decide⟩).2.2
  rw [hcontents] at hiff
  exact ⟨hcontents, hiff, by decide⟩

/-- Two bags with four pounds in them are judged as if five pounds were in them. -/
theorem storeSheet_bags_misjudged :
    (storeSheet.equipment? ⟨2⟩).map Equipment.contentWeight = some ⟨4⟩ ∧
      ({ compare := .atMost, qualifier := ⟨4⟩ } : WeightCriteria).accepts ⟨4⟩ = true ∧
      ({ qualifier := { compare := .atMost, qualifier := ⟨4⟩ } } : WeightRequirement).holds
        storeSheet (some ⟨2⟩) = false := by
  decide

end Sheet

end CharacterSheet
