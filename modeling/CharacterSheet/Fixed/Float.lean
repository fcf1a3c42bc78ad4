import CharacterSheet.Fixed
import CharacterSheet.Decimal.Double

/-!
# Fixed-point numbers and doubles

Documents hold numbers as doubles. A double becomes a fixed-point number by
rounding its ten-thousandths to the nearest whole number, a half away from zero.
-/

namespace CharacterSheet.Fixed

open Decimal (Double)

/-- The fixed-point number nearest to a double, or the bound that it exceeds; what is
not a number gives zero. -/
def ofFloat (f : Float) : Fixed :=
  match Double.ofFloat (f * 10000.0) with
  | .infinite true => undefined
  | .infinite false => highest
  | d => clamp (d.round?.getD 0)

/-- The double nearest to the number of ten-thousandths, divided by ten thousand. -/
def toFloat (a : Fixed) : Float :=
  Float.ofInt a.raw / 10000.0

end CharacterSheet.Fixed
