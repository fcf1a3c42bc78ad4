import CharacterSheet.Decimal.Digits
import CharacterSheet.Decimal.Double

/-!
# Shortest decimals

`shortest f` is the decimal with the fewest digits among those that read back as the
positive double `f`, and of two such decimals the nearer to `f`; of two that are equally
near it is the one whose last digit is even. The search works in exact arithmetic: a
double is `m * 2 ^ q`, and the decimals that read back as it are those between the
midpoints to its neighbours, the midpoints included when `m` is even. If a decimal of a
given number of digits lies there, so does one of the two neighbours of the double on
the grid of such decimals.
-/

namespace CharacterSheet.Decimal

/-- A positive double with its neighbourhood, as fractions over one denominator. -/
structure Neighbourhood where
  /-- Four times the numerator of the double. -/
  centre : Nat
  /-- Four times the numerator of the midpoint below. -/
  low : Nat
  /-- Four times the numerator of the midpoint above. -/
  high : Nat
  /-- Four times the denominator. -/
  denominator : Nat
  /-- Whether the midpoints read back as the double too. -/
  closed : Bool
deriving Repr

namespace Neighbourhood

/-- The neighbourhood of the double `m * 2 ^ q`; `narrow` says that the double below
is only half as far away as the one above. -/
def ofParts (m : Nat) (q : Int) (narrow : Bool) : Neighbourhood :=
  let num := 1 <<< q.toNat
  let den := 1 <<< (-q).toNat
  { centre := 4 * m * num
    low := (4 * m - (if narrow then 1 else 2)) * num
    high := (4 * m + 2) * num
    denominator := 4 * den
    closed := m % 2 == 0 }

/-- The neighbourhood of a positive finite double. The double below a power of two
is nearer than the one above, unless it is a subnormal number. -/
def ofFloat (f : Float) : Neighbourhood :=
  match Double.ofFloat f with
  | .finite _ m q => ofParts m q (m == Double.hiddenBit && -1074 < q)
  | _ => ofParts 0 0 false

/-- Whether the fraction `num / den` reads back as the double. -/
def holds (n : Neighbourhood) (num den : Nat) : Bool :=
  let x := num * n.denominator
  if n.closed then n.low * den ≤ x && x ≤ n.high * den
  else n.low * den < x && x < n.high * den

end Neighbourhood

/-- The decimal `significand * 10 ^ exponent`. -/
structure Scientific where
  significand : Nat
  exponent : Int
deriving DecidableEq, Repr

/-- The best decimal on the grid of multiples of `10 ^ k` that reads back: the nearest,
and between two that are equally near the even multiple. -/
def onGrid? (n : Neighbourhood) (k : Int) : Option Scientific :=
  let up := tenTo k.toNat
  let down := tenTo (-k).toNat
  let floor := n.centre * down / (n.denominator * up)
  let below := n.holds (floor * up) down
  let above := n.holds ((floor + 1) * up) down
  let middle := (2 * floor + 1) * up * n.denominator
  let doubled := 2 * n.centre * down
  let takesAbove := middle < doubled || (middle == doubled && floor % 2 == 1)
  if above && (!below || takesAbove) then some ⟨floor + 1, k⟩
  else if below then some ⟨floor, k⟩
  else none

/-- The first grid with a decimal that reads back, from the multiples of `10 ^ k`
to finer ones. -/
def coarsest? (n : Neighbourhood) : (steps : Nat) → (k : Int) → Option Scientific
  | 0, _ => none
  | steps + 1, k => (onGrid? n k).or (coarsest? n steps (k - 1))

/-- The power of ten above a fraction: the least `k` at or above `start` such that
the fraction is below `10 ^ k`, within `steps` steps. -/
def powerAbove (num den : Nat) : (steps : Nat) → (k : Int) → Int
  | 0, k => k
  | steps + 1, k =>
    let up := tenTo k.toNat
    let down := tenTo (-k).toNat
    if num * down < den * up then k else powerAbove num den steps (k + 1)

/-- The shortest decimal that reads back as a positive finite double. -/
def shortest (f : Float) : Scientific :=
  let n := Neighbourhood.ofFloat f
  let top := powerAbove n.centre n.denominator 640 (-330)
  (coarsest? n 20 top).getD ⟨0, 0⟩

end CharacterSheet.Decimal
