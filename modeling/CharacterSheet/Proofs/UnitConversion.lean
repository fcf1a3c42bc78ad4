import CharacterSheet.Weight
import CharacterSheet.Proofs.FixedArithmetic
import CharacterSheet.Proofs.FixedOrder

/-!
# Conversion between units of weight

A unit is a whole number of pounds, or a pound is a whole number of the unit. One direction of a
conversion then multiplies by that number and the other divides by it. Multiplying first and then
dividing gives back what there was, unless the product is out of range; dividing first loses what
the number does not go into. Conversions keep the order of weights in any case.

`WeightUnit.conversions_truncate` says this for every unit.
-/

namespace CharacterSheet

namespace Fixed

/-- What is left of a number when less than `n` is dropped from it, toward zero. -/
structure Truncates (n a r : Int) : Prop where
  nonneg : 0 ≤ a → 0 ≤ r
  nonpos : a ≤ 0 → r ≤ 0
  natAbs_le : r.natAbs ≤ a.natAbs
  loss_lt : (a - r).natAbs < n

variable {n : Int}

theorem truncates_tdiv_mul (hn : 0 < n) (a : Int) : Truncates n a (a.tdiv n * n) := by
  -- The remainder has the sign of the number, is no larger, and is smaller than `n`.
  have hsplit := Int.tdiv_mul_add_tmod a n
  have hle : (a.tmod n).natAbs ≤ a.natAbs := Int.natAbs_tmod a n ▸ Nat.mod_le _ _
  have hlt : (a.tmod n).natAbs < n.natAbs :=
    Int.natAbs_tmod a n ▸ Nat.mod_lt _ (Int.natAbs_pos.2 (Int.ne_of_gt hn))
  have hnonneg : 0 ≤ a → 0 ≤ a.tmod n := Int.tmod_nonneg n
  have hnonpos : a ≤ 0 → a.tmod n ≤ 0 := fun h => by
    have hneg := Int.tmod_nonneg n (Int.neg_nonneg_of_nonpos h)
    rw [Int.neg_tmod] at hneg
    omega
  constructor <;> omega

theorem Truncates.inRange {a r : Int} (h : Truncates n a r) (ha : InRange a) : InRange r := by
  have hnonneg := h.nonneg
  have hnonpos := h.nonpos
  have hle := h.natAbs_le
  simp only [InRange, undefined, highest] at ha ⊢
  omega

/-- A quotient by a positive number is in range. -/
theorem inRange_tdiv (hn : 0 < n) (a : Fixed) : InRange (a.raw.tdiv n) := by
  have hnonneg : 0 ≤ a.raw → 0 ≤ a.raw.tdiv n := fun h => Int.tdiv_nonneg h (Int.le_of_lt hn)
  have hnonpos : a.raw ≤ 0 → a.raw.tdiv n ≤ 0 := fun h =>
    Int.zero_tdiv n ▸ Int.tdiv_le_tdiv hn h
  have hle := Int.natAbs_tdiv_le_natAbs a.raw n
  have hrange := a.inRange_raw
  simp only [InRange, undefined, highest] at hrange ⊢
  omega

/-- A number that is divided and then multiplied is truncated. -/
theorem truncates_div_mul (hn : 0 < n) (a : Fixed) :
    Truncates n a.raw (clamp ((clamp (a.raw.tdiv n)).raw * n)).raw := by
  have htruncates := truncates_tdiv_mul hn a.raw
  rw [(inRange_tdiv hn a).raw_clamp, (htruncates.inRange a.inRange_raw).raw_clamp]
  exact htruncates

/-- A number that is multiplied and then divided is as before exactly if the product is in range. -/
theorem mul_div_eq_iff (hn : 0 < n) (a : Fixed) :
    clamp ((clamp (a.raw * n)).raw.tdiv n) = a ↔ InRange (a.raw * n) := by
  constructor
  · intro h
    -- Divided and multiplied again, the bounded product is the exact one.
    have hquotient : (clamp (a.raw * n)).raw.tdiv n = a.raw := by
      rw [← (inRange_tdiv hn _).raw_clamp, h]
    have htruncates := truncates_tdiv_mul hn (clamp (a.raw * n)).raw
    rw [hquotient] at htruncates
    exact htruncates.inRange (inRange_raw _)
  · intro h
    rw [h.raw_clamp, Int.mul_tdiv_cancel _ (Int.ne_of_gt hn), clamp_raw]

end Fixed

namespace WeightUnit

open Fixed (InRange Truncates clamp)

/-- How many pounds one of the units is, if it is not less than a pound. -/
def poundsEach : WeightUnit → Int
  | ton => 2000
  | kilogram => 2
  | pound | ounce | gram => 1

/-- How many of the units a pound is, if it is not less than one of them. -/
def perPound : WeightUnit → Int
  | ounce => 16
  | gram => 500
  | pound | ton | kilogram => 1

/-- The pounds in a number of units, before the bounds of numbers apply. -/
def exactToPounds (value : Fixed) (u : WeightUnit) : Int :=
  (value.raw * u.poundsEach).tdiv u.perPound

/-- The units in a number of pounds, before the bounds of numbers apply. -/
def exactFromPounds (pounds : Fixed) (u : WeightUnit) : Int :=
  (pounds.raw * u.perPound).tdiv u.poundsEach

theorem toPounds_eq_clamp (v : Fixed) (u : WeightUnit) :
    u.toPounds v = clamp (u.exactToPounds v) := by
  have hsixteen : v / 16 = clamp (v.raw.tdiv 16) := Fixed.div_ofInt (by decide) (by decide) v
  have hgrams : v / 500 = clamp (v.raw.tdiv 500) := Fixed.div_ofInt (by decide) (by decide) v
  have htwo : v * 2 = clamp (v.raw * 2) := Fixed.mul_ofInt (by decide) v
  have htons : v * 2000 = clamp (v.raw * 2000) := Fixed.mul_ofInt (by decide) v
  cases u <;>
    simp [toPounds, exactToPounds, poundsEach, perPound, hsixteen, hgrams, htwo, htons]

theorem fromPounds_eq_clamp (p : Fixed) (u : WeightUnit) :
    u.fromPounds p = clamp (u.exactFromPounds p) := by
  have hsixteen : p * 16 = clamp (p.raw * 16) := Fixed.mul_ofInt (by decide) p
  have hgrams : p * 500 = clamp (p.raw * 500) := Fixed.mul_ofInt (by decide) p
  have htwo : p / 2 = clamp (p.raw.tdiv 2) := Fixed.div_ofInt (by decide) (by decide) p
  have htons : p / 2000 = clamp (p.raw.tdiv 2000) := Fixed.div_ofInt (by decide) (by decide) p
  cases u <;>
    simp [fromPounds, exactFromPounds, poundsEach, perPound, hsixteen, hgrams, htwo, htons]

/-- Each unit is a whole number of pounds, or a pound a whole number of the unit. -/
theorem factor_pos (u : WeightUnit) : 0 < u.poundsEach ∧ 0 < u.perPound := by
  cases u <;> decide

theorem toPounds_le_toPounds {a b : Fixed} (h : a ≤ b) (u : WeightUnit) :
    u.toPounds a ≤ u.toPounds b := by
  obtain ⟨heach, hper⟩ := u.factor_pos
  rw [toPounds_eq_clamp, toPounds_eq_clamp]
  exact Fixed.clamp_le_clamp
    (Int.tdiv_le_tdiv hper (Int.mul_le_mul_of_nonneg_right h (Int.le_of_lt heach)))

theorem fromPounds_le_fromPounds {a b : Fixed} (h : a ≤ b) (u : WeightUnit) :
    u.fromPounds a ≤ u.fromPounds b := by
  obtain ⟨heach, hper⟩ := u.factor_pos
  rw [fromPounds_eq_clamp, fromPounds_eq_clamp]
  exact Fixed.clamp_le_clamp
    (Int.tdiv_le_tdiv heach (Int.mul_le_mul_of_nonneg_right h (Int.le_of_lt hper)))

/-! ### There and back -/

section RoundTrip

variable {u : WeightUnit}

/-- Pounds are multiplied and divided again, if a unit is no more than a pound. -/
theorem toPounds_fromPounds_eq_iff (h : u.poundsEach = 1) (p : Fixed) :
    u.toPounds (u.fromPounds p) = p ↔ InRange (u.exactFromPounds p) := by
  rw [toPounds_eq_clamp, fromPounds_eq_clamp, exactToPounds, exactFromPounds, h, Int.tdiv_one,
    Int.mul_one]
  exact Fixed.mul_div_eq_iff u.factor_pos.2 p

theorem fromPounds_toPounds_eq_iff (h : u.perPound = 1) (v : Fixed) :
    u.fromPounds (u.toPounds v) = v ↔ InRange (u.exactToPounds v) := by
  rw [toPounds_eq_clamp, fromPounds_eq_clamp, exactToPounds, exactFromPounds, h, Int.tdiv_one,
    Int.mul_one]
  exact Fixed.mul_div_eq_iff u.factor_pos.1 v

/-- Pounds are divided and multiplied again, if a unit is no less than a pound. -/
theorem truncates_toPounds_fromPounds (h : u.perPound = 1) (p : Fixed) :
    Truncates u.poundsEach p.raw (u.toPounds (u.fromPounds p)).raw := by
  rw [toPounds_eq_clamp, fromPounds_eq_clamp, exactToPounds, exactFromPounds, h, Int.tdiv_one,
    Int.mul_one]
  exact Fixed.truncates_div_mul u.factor_pos.1 p

theorem truncates_fromPounds_toPounds (h : u.poundsEach = 1) (v : Fixed) :
    Truncates u.perPound v.raw (u.fromPounds (u.toPounds v)).raw := by
  rw [toPounds_eq_clamp, fromPounds_eq_clamp, exactToPounds, exactFromPounds, h, Int.tdiv_one,
    Int.mul_one]
  exact Fixed.truncates_div_mul u.factor_pos.2 v

end RoundTrip

/-- **Conversions lose only what truncation must.** They keep the order of weights, also where they
end at a bound. There and back, what is multiplied first is kept exactly, unless the product is out
of range; what is divided first never changes its sign, does not grow, and loses less than the
number that it was divided by. -/
theorem conversions_truncate :
    (∀ (u : WeightUnit) (a b : Fixed), a ≤ b →
        u.toPounds a ≤ u.toPounds b ∧ u.fromPounds a ≤ u.fromPounds b) ∧
      (∀ u ∈ [pound, ounce, gram], ∀ p : Fixed,
        u.toPounds (u.fromPounds p) = p ↔ InRange (u.exactFromPounds p)) ∧
      (∀ u ∈ [pound, ton, kilogram], ∀ v : Fixed,
        u.fromPounds (u.toPounds v) = v ↔ InRange (u.exactToPounds v)) ∧
      (∀ u ∈ [ton, kilogram], ∀ p : Fixed,
        Truncates u.poundsEach p.raw (u.toPounds (u.fromPounds p)).raw) ∧
      ∀ u ∈ [ounce, gram], ∀ v : Fixed,
        Truncates u.perPound v.raw (u.fromPounds (u.toPounds v)).raw := by
  have hlight : ∀ u ∈ [pound, ounce, gram], u.poundsEach = 1 := by decide
  have hheavy : ∀ u ∈ [pound, ton, kilogram], u.perPound = 1 := by decide
  refine ⟨fun u a b h => ⟨toPounds_le_toPounds h u, fromPounds_le_fromPounds h u⟩,
    fun u hu => toPounds_fromPounds_eq_iff (hlight u hu),
    fun u hu => fromPounds_toPounds_eq_iff (hheavy u hu), fun u hu => ?_, fun u hu => ?_⟩
  · exact truncates_toPounds_fromPounds (hheavy u (List.mem_cons_of_mem pound hu))
  · exact truncates_fromPounds_toPounds (hlight u (List.mem_cons_of_mem pound hu))

/-- Tons beyond the bound, a little less than nothing in ounces and kilograms, and grams that make
no whole ten-thousandth of a pound. -/
theorem conversions_of_small_weights :
    ((600000000000000 : Fixed) ≤ .highest ∧
        ton.toPounds 600000000000000 ≤ ton.toPounds .highest) ∧
      (ounce ∈ [pound, ounce, gram] ∧ InRange (ounce.exactFromPounds { raw := -3 }) ∧
        ounce.toPounds (ounce.fromPounds { raw := -3 }) = { raw := -3 }) ∧
      (ton ∈ [pound, ton, kilogram] ∧ InRange (ton.exactToPounds { raw := 7 }) ∧
        ton.fromPounds (ton.toPounds { raw := 7 }) = { raw := 7 }) ∧
      (kilogram ∈ [ton, kilogram] ∧
        (kilogram.toPounds (kilogram.fromPounds { raw := -3 })).raw = -2 ∧
        Truncates 2 (-3) (-2)) ∧
      (gram ∈ [ounce, gram] ∧ (gram.fromPounds (gram.toPounds { raw := 1234 })).raw = 1000 ∧
        Truncates 500 1234 1000) := by
  obtain ⟨hmono, hlight, hheavy, hpounds, hunits⟩ := conversions_truncate
  have hle : (600000000000000 : Fixed) ≤ .highest := by decide
  have hounces : InRange (ounce.exactFromPounds { raw := -3 }) := by decide
  have htons : InRange (ton.exactToPounds { raw := 7 }) := by decide
  have hkilograms : (kilogram.toPounds (kilogram.fromPounds { raw := -3 })).raw = -2 := by decide
  have hgrams : (gram.fromPounds (gram.toPounds { raw := 1234 })).raw = 1000 := by decide
  refine ⟨⟨hle, (hmono ton _ _ hle).1⟩, ⟨by decide, hounces, ?_⟩, ⟨by decide, htons, ?_⟩,
    ⟨by decide, hkilograms, ?_⟩, ⟨by decide, hgrams, ?_⟩⟩
  · exact (hlight ounce (by decide) _).2 hounces
  · exact (hheavy ton (by decide) _).2 htons
  · exact hkilograms ▸ hpounds kilogram (by decide) { raw := -3 }
  · exact hgrams ▸ hunits gram (by decide) { raw := 1234 }

end WeightUnit

end CharacterSheet
