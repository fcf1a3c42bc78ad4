/-!
# Fixed-point numbers

Levels, modifiers, amounts and weights are decimals with four places. A value is
held as the whole number of its ten-thousandths, which fits in a signed word of 64
bits; sums, products and quotients that leave that range end at its bounds. The
lowest value is no number of the rules: it stands for a level that is undefined.

`raw_clamp` and the lemmas on operations say what each does to the number of
ten-thousandths.
-/

namespace CharacterSheet

/-- A decimal with four places: `raw` ten-thousandths. -/
structure Fixed where
  raw : Int
  lower : -9223372036854775808 ≤ raw := by decide
  upper : raw ≤ 9223372036854775807 := by decide
deriving DecidableEq, Repr

namespace Fixed

@[ext] theorem ext {a b : Fixed} (h : a.raw = b.raw) : a = b := by
  cases a; cases b; cases h; rfl

/-- The number of units of `raw` in the number one. -/
def scale : Int := 10000

/-- The lowest value. It stands for a level that is undefined. -/
def undefined : Fixed := ⟨-9223372036854775808, by decide, by decide⟩

/-- The highest value. -/
def highest : Fixed := ⟨9223372036854775807, by decide, by decide⟩

def isUndefined (a : Fixed) : Bool := a == undefined

/-! ### Construction -/

/-- The value with the given number of ten-thousandths, or the bound that it
exceeds. -/
def clamp (n : Int) : Fixed :=
  if h : n < -9223372036854775808 then undefined
  else if h' : 9223372036854775807 < n then highest
  else ⟨n, by omega, by omega⟩

theorem raw_clamp (n : Int) :
    (clamp n).raw = max (-9223372036854775808) (min n 9223372036854775807) := by
  unfold clamp undefined highest
  split
  · simp only; omega
  · split <;> simp only <;> omega

/-- A number of ten-thousandths in range is kept. -/
theorem raw_clamp_of_mem {n : Int} (h : -9223372036854775808 ≤ n)
    (h' : n ≤ 9223372036854775807) : (clamp n).raw = n := by
  rw [raw_clamp]; omega

@[simp] theorem clamp_raw (a : Fixed) : clamp a.raw = a :=
  ext (raw_clamp_of_mem a.lower a.upper)

/-- A whole number. -/
def ofInt (n : Int) : Fixed := clamp (n * scale)

instance (n : Nat) : OfNat Fixed n := ⟨ofInt n⟩
instance : Inhabited Fixed := ⟨0⟩

/-! ### Order -/

instance : LT Fixed := ⟨fun a b => a.raw < b.raw⟩
instance : LE Fixed := ⟨fun a b => a.raw ≤ b.raw⟩
instance (a b : Fixed) : Decidable (a < b) := inferInstanceAs (Decidable (a.raw < b.raw))
instance (a b : Fixed) : Decidable (a ≤ b) := inferInstanceAs (Decidable (a.raw ≤ b.raw))
instance : Max Fixed := maxOfLe
instance : Min Fixed := minOfLe

theorem lt_iff {a b : Fixed} : a < b ↔ a.raw < b.raw := Iff.rfl
theorem le_iff {a b : Fixed} : a ≤ b ↔ a.raw ≤ b.raw := Iff.rfl

/-! ### Arithmetic -/

instance : Add Fixed := ⟨fun a b => clamp (a.raw + b.raw)⟩
instance : Sub Fixed := ⟨fun a b => clamp (a.raw - b.raw)⟩
instance : Neg Fixed := ⟨fun a => clamp (-a.raw)⟩

/-- Products lose what lies beyond the fourth place, toward zero. -/
instance : Mul Fixed := ⟨fun a b => clamp ((a.raw * b.raw).tdiv scale)⟩

/-- Quotients lose what lies beyond the fourth place, toward zero; a quotient by zero
is zero. -/
instance : Div Fixed :=
  ⟨fun a b => if b.raw = 0 then 0 else clamp ((a.raw * scale).tdiv b.raw)⟩

theorem add_def (a b : Fixed) : a + b = clamp (a.raw + b.raw) := rfl
theorem sub_def (a b : Fixed) : a - b = clamp (a.raw - b.raw) := rfl
theorem neg_def (a : Fixed) : -a = clamp (-a.raw) := rfl
theorem mul_def (a b : Fixed) : a * b = clamp ((a.raw * b.raw).tdiv scale) := rfl
theorem div_def (a b : Fixed) :
    a / b = if b.raw = 0 then 0 else clamp ((a.raw * scale).tdiv b.raw) := rfl

theorem raw_add (a b : Fixed) :
    (a + b).raw = max (-9223372036854775808) (min (a.raw + b.raw) 9223372036854775807) :=
  raw_clamp _

theorem raw_sub (a b : Fixed) :
    (a - b).raw = max (-9223372036854775808) (min (a.raw - b.raw) 9223372036854775807) :=
  raw_clamp _

protected theorem add_comm (a b : Fixed) : a + b = b + a := by
  rw [add_def, add_def, Int.add_comm]

/-- Sums keep the order, also where they end at a bound. -/
protected theorem add_le_add {a b c d : Fixed} (h : a ≤ b) (h' : c ≤ d) : a + c ≤ b + d := by
  simp only [le_iff, raw_add] at *
  omega

/-- The sum of a list, from left to right. -/
def sum (values : List Fixed) : Fixed := values.foldl (· + ·) 0

/-! ### Whole numbers -/

/-- The whole part, toward zero. -/
def toInt (a : Fixed) : Int := a.raw.tdiv scale

/-- Drops the places after the point. -/
def trunc (a : Fixed) : Fixed := clamp (a.raw.tdiv scale * scale)

/-- The next whole number that is not below a positive value; other values lose the
places after the point. -/
def ceil (a : Fixed) : Fixed :=
  if 0 < a.raw ∧ a.trunc ≠ a then a.trunc + 1 else a.trunc

/-- Whether there are no places after the point. -/
def isWhole (a : Fixed) : Bool := a.raw.tmod scale == 0

end Fixed

end CharacterSheet
