import Mathlib.Algebra.BigOperators.Group.List.Basic
import Mathlib.Algebra.Ring.Int.Defs
import CharacterSheet.Item.Equipment
import CharacterSheet.Proofs.FixedArithmetic

/-!
# Extended weights as flat sums

The extended weight of a piece is worked out along the tree of its contents, and every product and
every sum on the way may end at the highest number. As long as no weight and no quantity is
negative, this makes no difference: the result is the exact sum over all pieces of the tree, or the
highest number if the sum exceeds it, `Equipment.extendedWeight_flat`. So it does not matter in
which containers the pieces are.

A sum of numbers that are not negative goes up only, and stays at the bound once it is there. That
is what carries the induction over the tree.
-/

namespace CharacterSheet

/-- A piece whose weight and quantity are not negative. -/
structure Gear.NonNegative (g : Gear) : Prop where
  weight : 0 ≤ g.weight.pounds
  quantity : 0 ≤ g.quantity

instance (g : Gear) : Decidable g.NonNegative :=
  decidable_of_iff (0 ≤ g.weight.pounds ∧ 0 ≤ g.quantity) ⟨fun h => ⟨h.1, h.2⟩, fun h => ⟨h.1, h.2⟩⟩

/-- What a piece weighs as often as its quantity says, its contents apart: an exact number of
ten-thousandths of a pound, without what lies beyond the fourth place. -/
def Gear.stackWeight (g : Gear) : Int := g.weight.pounds.raw * g.quantity.raw / Fixed.scale

namespace Equipment

/-- The exact weight of pieces, the contents of each apart. -/
def exactTotal (es : List Equipment) : Int := (es.map fun e => e.toGear.stackWeight).sum

theorem exactTotal_cons (e : Equipment) (es : List Equipment) :
    exactTotal (e :: es) = e.toGear.stackWeight + exactTotal es := by
  simp [exactTotal]

theorem exactTotal_append (es fs : List Equipment) :
    exactTotal (es ++ fs) = exactTotal es + exactTotal fs := by
  simp [exactTotal]

/-- Pieces weigh the same in any order, and whatever is in them. -/
theorem exactTotal_of_perm {es fs : List Equipment}
    (h : (fs.map toGear).Perm (es.map toGear)) : exactTotal fs = exactTotal es := by
  have hweights := (h.map Gear.stackWeight).sum_eq
  rwa [List.map_map, List.map_map] at hweights

mutual

/-- The extended weight of a piece is that of all pieces in it, as far as numbers go. -/
theorem reaches_extendedWeight : ∀ e : Equipment, (∀ p ∈ e.pieces, p.NonNegative) →
    e.extendedWeight.pounds.Reaches (exactTotal e.pieces)
  | ⟨gear, children⟩, h => by
      rw [pieces] at h ⊢
      obtain ⟨hgear, hchildren⟩ := List.forall_mem_cons.1 h
      have hstack : (gear.weight * gear.quantity).pounds.Reaches gear.stackWeight :=
        Fixed.reaches_mul hgear.weight hgear.quantity
      have hcontents := reaches_extendedWeightFrom children hchildren Fixed.reaches_zero
      rw [Int.zero_add] at hcontents
      rw [extendedWeight, exactTotal_cons]
      exact hstack.add hcontents

theorem reaches_extendedWeightFrom : ∀ (es : List Equipment), (∀ p ∈ piecesAll es, p.NonNegative) →
    ∀ {sum : Weight} {n : Int}, sum.pounds.Reaches n →
      (extendedWeightFrom sum es).pounds.Reaches (n + exactTotal (piecesAll es))
  | [], _, sum, n, hsum => by
      have hnil : n + exactTotal (piecesAll []) = n := Int.add_zero n
      rwa [hnil]
  | e :: rest, h, sum, n, hsum => by
      rw [piecesAll] at h ⊢
      obtain ⟨he, hrest⟩ := List.forall_mem_append.1 h
      have hnext := hsum.add (reaches_extendedWeight e he)
      rw [extendedWeightFrom, exactTotal_append, ← Int.add_assoc]
      exact reaches_extendedWeightFrom rest hrest hnext

end

/-- **Extended weight is a flat sum.** If no weight and no quantity in it is negative, a piece
weighs with its contents what all of its pieces weigh, or the highest number if that is less. So
every other arrangement of the same pieces weighs the same. -/
theorem extendedWeight_flat (e : Equipment) (h : ∀ p ∈ e.pieces, p.NonNegative) :
    e.extendedWeight.pounds.raw =
        min Fixed.highest.raw (e.pieces.map fun p => p.toGear.stackWeight).sum ∧
      ∀ f : Equipment, (f.pieces.map toGear).Perm (e.pieces.map toGear) →
        f.extendedWeight = e.extendedWeight := by
  refine ⟨(reaches_extendedWeight e h).raw_eq, fun f hf => ?_⟩
  have hnonneg : ∀ p ∈ f.pieces, p.NonNegative := by
    intro p hp
    obtain ⟨q, hq, heq⟩ := List.mem_map.1 (hf.subset (List.mem_map_of_mem hp))
    exact heq ▸ h q hq
  rw [Weight.eq_iff, (reaches_extendedWeight e h).raw_eq, (reaches_extendedWeight f hnonneg).raw_eq,
    exactTotal_of_perm hf]

/-- Two ingots that together weigh more than numbers reach, one of them in a coffer with some dust.
Two and a half grains of the dust count as two. -/
def vault : Equipment where
  name := "Vault"
  weight := ⟨1⟩
  children := [
    { name := "Coffer", weight := ⟨2⟩, quantity := 2
      children := [
        { name := "Ingot", weight := ⟨600000000000000⟩ },
        { name := "Dust", weight := ⟨{ raw := 1 }⟩, quantity := { raw := 25000 } }] },
    { name := "Statue", weight := ⟨600000000000000⟩ }]

/-- The same pieces in other containers. -/
def rearranged : Equipment where
  name := "Vault"
  weight := ⟨1⟩
  children := [
    { name := "Ingot", weight := ⟨600000000000000⟩
      children := [{ name := "Dust", weight := ⟨{ raw := 1 }⟩, quantity := { raw := 25000 } }] },
    { name := "Coffer", weight := ⟨2⟩, quantity := 2
      children := [{ name := "Statue", weight := ⟨600000000000000⟩ }] }]

theorem vault_rearranged :
    (∀ p ∈ vault.pieces, p.NonNegative) ∧
      (rearranged.pieces.map toGear).Perm (vault.pieces.map toGear) ∧
      (vault.pieces.map fun p => p.toGear.stackWeight).sum = 12000000000000050002 ∧
      vault.extendedWeight.pounds.raw = min Fixed.highest.raw 12000000000000050002 ∧
      rearranged.extendedWeight = vault.extendedWeight := by
  have hnonneg : ∀ p ∈ vault.pieces, p.NonNegative := by decide
  have hperm : (rearranged.pieces.map toGear).Perm (vault.pieces.map toGear) := by decide
  have hsum : (vault.pieces.map fun p => p.toGear.stackWeight).sum = 12000000000000050002 := by
    decide
  obtain ⟨hflat, hregrouped⟩ := extendedWeight_flat vault hnonneg
  exact ⟨hnonneg, hperm, hsum, hsum ▸ hflat, hregrouped rearranged hperm⟩

end Equipment

end CharacterSheet
