import CharacterSheet.Fixed
import CharacterSheet.Decimal.Digits
import CharacterSheet.Text.Blank

/-!
# The text of a fixed-point number

A minus sign if the number is negative, the whole part, and, unless the number is
whole, a point with one to four digits of which the last is not a zero.
-/

namespace CharacterSheet.Fixed

/-- The digits after the point, without zeros at their end. -/
def fractionDigits (a : Fixed) : List Char :=
  Text.dropEndWhile (· == '0') (Decimal.lastDigits 4 (a.raw.natAbs % 10000))

/-- The characters of the text of a number. -/
def textChars (a : Fixed) : List Char :=
  let sign := if a.raw < 0 then ['-'] else []
  let fraction := a.fractionDigits
  sign ++ Decimal.digits (a.raw.natAbs / 10000) ++
    (if fraction.isEmpty then [] else '.' :: fraction)

/-- The decimal text of a number. -/
def text (a : Fixed) : String := String.ofList a.textChars

/-- The text of a number with a sign in any case. -/
def signedText (a : Fixed) : String :=
  if a.raw < 0 then a.text else "+" ++ a.text

instance : ToString Fixed := ⟨text⟩

end CharacterSheet.Fixed
