import CharacterSheet.Decimal.Digits

/-!
# Reading decimal texts as binary floating-point numbers

`readFloat?` reads a text with an optional sign, digits with at most one point among
them and an optional exponent, and gives the nearest double. The words for infinity
and not-a-number are read as well, in any letter case.
-/

namespace CharacterSheet.Decimal

/-- The double nearest to `m * 10 ^ e`; beyond the range of doubles, infinity or
zero. -/
def scaled (m : Nat) (e : Int) : Float :=
  if m = 0 then 0.0
  else if 400 < e then 1.0 / 0.0
  else if e + (digits m).length < -400 then 0.0
  else Float.ofScientific m (e < 0) e.natAbs

/-- Reads an exponent that takes up the whole of the text; no text is the exponent
zero. -/
def readExponent? (cs : List Char) : Option Int :=
  match cs with
  | [] => some 0
  | c :: rest =>
    if c == 'e' || c == 'E' then
      let (negative, rest) := splitSign rest
      let (ds, rest) := splitDigits rest
      if ds.isEmpty || !rest.isEmpty then none
      else some (if negative then -(value ds : Int) else value ds)
    else none

/-- Reads a decimal without a sign. -/
def readMagnitude? (cs : List Char) : Option Float := do
  let (whole, rest) := splitDigits cs
  let (fraction, rest) :=
    match rest with
    | '.' :: rest => splitDigits rest
    | _ => ([], rest)
  if whole.isEmpty && fraction.isEmpty then none
  let e ← readExponent? rest
  some (scaled (valueFrom (value whole) fraction) (e - fraction.length))

/-- Reads a decimal text. -/
def readFloat? (cs : List Char) : Option Float :=
  let (negative, rest) := splitSign cs
  let word := String.ofList (rest.map Char.toLower)
  let magnitude :=
    if word == "inf" || word == "infinity" then some (1.0 / 0.0)
    else if word == "nan" then some (0.0 / 0.0)
    else readMagnitude? rest
  magnitude.map fun f => if negative then -f else f

end CharacterSheet.Decimal
