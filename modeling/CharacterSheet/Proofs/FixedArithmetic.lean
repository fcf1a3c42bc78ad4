import CharacterSheet.Fixed

/-!
# Arithmetic of fixed-point numbers

What the operations give where no result ends at a bound, or where results end at the upper bound
only. A product by a whole number then is the exact product, and a quotient by a whole number loses
what the number does not go into.
-/

namespace CharacterSheet.Fixed

/-- Numbers of ten-thousandths at which no result ends at a bound. -/
def InRange (n : Int) : Prop := undefined.raw ≤ n ∧ n ≤ highest.raw

instance (n : Int) : Decidable (InRange n) := inferInstanceAs (Decidable (_ ∧ _))

theorem InRange.raw_clamp {n : Int} (h : InRange n) : (clamp n).raw = n :=
  raw_clamp_of_mem h.1 h.2

theorem inRange_raw (a : Fixed) : InRange a.raw := ⟨a.lower, a.upper⟩

theorem raw_highest : highest.raw = 9223372036854775807 := rfl

/-! ### Numbers that are not negative -/

/-- A value is as large as an exact number that is not negative, as far as values go: beyond the
highest value it is that. -/
structure Reaches (a : Fixed) (n : Int) : Prop where
  nonneg : 0 ≤ n
  raw_eq : a.raw = min highest.raw n

theorem reaches_clamp {n : Int} (h : 0 ≤ n) : (clamp n).Reaches n where
  nonneg := h
  raw_eq := by
    rw [Fixed.raw_clamp, raw_highest]
    omega

theorem reaches_zero : (0 : Fixed).Reaches 0 := ⟨Int.le_refl 0, rfl⟩

/-- Sums at the bound stay at the bound, so only the exact sum counts. -/
theorem Reaches.add {a b : Fixed} {m n : Int} (ha : a.Reaches m) (hb : b.Reaches n) :
    (a + b).Reaches (m + n) where
  nonneg := Int.add_nonneg ha.nonneg hb.nonneg
  raw_eq := by
    have hm := ha.nonneg
    have hn := hb.nonneg
    rw [raw_add, ha.raw_eq, hb.raw_eq, raw_highest]
    omega

theorem reaches_mul {a b : Fixed} (ha : 0 ≤ a) (hb : 0 ≤ b) :
    (a * b).Reaches (a.raw * b.raw / scale) := by
  have hproduct : 0 ≤ a.raw * b.raw := Int.mul_nonneg ha hb
  rw [mul_def, Int.tdiv_eq_ediv_of_nonneg hproduct]
  exact reaches_clamp (Int.ediv_nonneg hproduct (by decide))

/-! ### Whole factors -/

section Whole

variable {n : Int}

theorem raw_ofInt (h : InRange (n * scale)) : (ofInt n).raw = n * scale := h.raw_clamp

/-- A product by a whole number loses no places. -/
theorem mul_ofInt (h : InRange (n * scale)) (a : Fixed) : a * ofInt n = clamp (a.raw * n) := by
  rw [mul_def, raw_ofInt h, ← Int.mul_assoc, Int.mul_tdiv_cancel _ (by decide)]

/-- A quotient by a whole number drops what the number does not go into. -/
theorem div_ofInt (hn : 0 < n) (h : InRange (n * scale)) (a : Fixed) :
    a / ofInt n = clamp (a.raw.tdiv n) := by
  have hscaled : 0 < n * scale := Int.mul_pos hn (by decide)
  rw [div_def, raw_ofInt h, if_neg (Int.ne_of_gt hscaled),
    Int.mul_tdiv_mul_of_pos_left _ _ (by decide)]

end Whole

end CharacterSheet.Fixed
