import CharacterSheet.Decimal.Shortest

/-!
# Numerals of documents

A numeral is a decimal number as it stands in a document: a sign, digits, digits after
a point and an exponent. `toFloat?` is the double that it stands for.

The digits are gathered in a word of 64 bits. Digits before the point that the word
cannot take count as zeros, those after the point are dropped. The word is then
scaled by a power of ten in double arithmetic, at most 308 places at a time. A numeral
beyond the range of doubles stands for no number.
-/

namespace CharacterSheet.Decimal

/-- A decimal number as it is written. -/
structure Numeral where
  negative : Bool := false
  whole : List Char
  fraction : List Char := []
  exponent : Option Int := none
deriving DecidableEq, Repr

/-- Takes digits into a word of 64 bits until the next one does not fit; gives the
word and the digits left over. -/
def gather : (word : Nat) → List Char → Nat × List Char
  | word, [] => (word, [])
  | word, d :: rest =>
    let next := 10 * word + digitValue d
    if next < 0x10000000000000000 then gather next rest else (word, d :: rest)

/-- A power of ten as a double. -/
def floatTenTo (k : Nat) : Float := Float.ofScientific 1 false k

/-- Scales a double by a power of ten, at most 308 places at a time. -/
def scaleFloat? (f : Float) (exponent : Int) : Option Float :=
  if exponent.natAbs ≤ 308 then
    if 0 ≤ exponent then
      let g := f * floatTenTo exponent.natAbs
      if g.isInf then none else some g
    else some (f / floatTenTo exponent.natAbs)
  else if f == 0.0 then some f
  else if 0 ≤ exponent then none
  else scaleFloat? (f / floatTenTo 308) (exponent + 308)
termination_by exponent.natAbs
decreasing_by omega

namespace Numeral

/-- The double that a numeral stands for, if it is in range. -/
def toFloat? (n : Numeral) : Option Float :=
  let (word, beyond) := gather 0 n.whole
  let magnitude :=
    if n.fraction.isEmpty && n.exponent.isNone && beyond.isEmpty then some (Float.ofNat word)
    else
      let (word, dropped) := gather word n.fraction
      let taken := n.fraction.length - dropped.length
      scaleFloat? (Float.ofNat word) (n.exponent.getD 0 + beyond.length - taken)
  magnitude.map fun f => if n.negative then -f else f

/-- A numeral without point and exponent stands for a natural number. -/
def toNat? (n : Numeral) : Option Nat :=
  if n.negative || !n.fraction.isEmpty || n.exponent.isSome then none else some (value n.whole)

/-- The numeral of a whole number. -/
def ofInt (n : Int) : Numeral :=
  { negative := n < 0, whole := digits n.natAbs }

/-- A decimal written without an exponent, with at least one digit after the point. -/
def positional (negative : Bool) (d : Scientific) : Numeral :=
  if 0 ≤ d.exponent then
    { negative, whole := digits (d.significand * tenTo d.exponent.natAbs), fraction := ['0'] }
  else
    let unit := tenTo d.exponent.natAbs
    { negative
      whole := digits (d.significand / unit)
      fraction := lastDigits d.exponent.natAbs d.significand }

/-- The numeral of a finite double: the shortest decimal that reads back, written with
a point and without an exponent. -/
def ofFloat (f : Float) : Numeral :=
  if f == 0.0 then positional (f.toBits != 0) ⟨0, 0⟩
  else if f < 0.0 then positional true (shortest (-f))
  else positional false (shortest f)

end Numeral

end CharacterSheet.Decimal
