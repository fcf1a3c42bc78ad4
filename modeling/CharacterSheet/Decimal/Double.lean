/-!
# The value of a double

`Double.ofFloat` takes a binary floating-point number of 64 bits apart into a sign, a
whole significand and a power of two, so that rules on its value are stated in whole
numbers.
-/

namespace CharacterSheet.Decimal

/-- What a double denotes: `± m * 2 ^ q`, an infinity, or no number. -/
inductive Double where
  | finite (negative : Bool) (m : Nat) (q : Int)
  | infinite (negative : Bool)
  | notANumber
deriving DecidableEq, Repr

namespace Double

/-- The bit above the 52 bits of a fraction, which the significand of a normal number
has in addition. -/
def hiddenBit : Nat := 0x10000000000000

/-- Reads the bits of a double: a sign, eleven bits of exponent and 52 of fraction. -/
def ofFloat (f : Float) : Double :=
  let bits := f.toBits.toNat
  let negative := bits >>> 63 == 1
  let exponent := (bits >>> 52) % 2048
  let fraction := bits % hiddenBit
  if exponent = 0 then .finite negative fraction (-1074)
  else if exponent < 2047 then
    .finite negative (hiddenBit + fraction) ((exponent : Int) - 1075)
  else if fraction = 0 then .infinite negative
  else .notANumber

/-- The whole number nearest to `m * 2 ^ q`, a half going up. -/
def roundMagnitude (m : Nat) (q : Int) : Nat :=
  let unit := 1 <<< q.natAbs
  if 0 ≤ q then m * unit else (2 * m + unit) / (2 * unit)

/-- The whole number nearest to a double, a half going away from zero. Infinities have
none, and what is not a number counts as zero. -/
def round? : Double → Option Int
  | .finite negative m q =>
    let n : Int := roundMagnitude m q
    some (if negative then -n else n)
  | .infinite _ => none
  | .notANumber => some 0

end Double

end CharacterSheet.Decimal
