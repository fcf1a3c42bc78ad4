import CharacterSheet.Fixed.Float
import CharacterSheet.Fixed.Text
import CharacterSheet.Decimal.Reading
import CharacterSheet.Keyword

/-!
# Weights

A weight is a number of pounds. Conversions between units use the round factors of the
rules, with sixteen ounces, half a kilogram and five hundred grams to the pound.
-/

namespace CharacterSheet

/-- A unit of weight. -/
inductive WeightUnit where
  | pound | ounce | ton | kilogram | gram
deriving DecidableEq, Repr, Inhabited

namespace WeightUnit

/-- The units in the order in which they are listed. -/
def all : List WeightUnit := [pound, ounce, ton, kilogram, gram]

def key : WeightUnit → String
  | pound => "lb"
  | ounce => "oz"
  | ton => "tn"
  | kilogram => "kg"
  | gram => "g"

/-- The pounds in a number of units. -/
def toPounds (value : Fixed) : WeightUnit → Fixed
  | pound => value
  | ounce => value / 16
  | ton => value * 2000
  | kilogram => value * 2
  | gram => value / 500

/-- The units in a number of pounds. -/
def fromPounds (pounds : Fixed) : WeightUnit → Fixed
  | pound => pounds
  | ounce => pounds * 16
  | ton => pounds / 2000
  | kilogram => pounds / 2
  | gram => pounds * 500

/-- Reads a unit, apart from blanks around it and letter case. A pound may be written
as a number sign. -/
def parse (text : String) : Except UnknownWord WeightUnit :=
  match Text.lowercase (Text.trim text) with
  | "lb" | "#" => .ok pound
  | "oz" => .ok ounce
  | "tn" => .ok ton
  | "kg" => .ok kilogram
  | "g" => .ok gram
  | _ => .error (.weightUnit text)

end WeightUnit

/-- A weight in pounds. -/
structure Weight where
  pounds : Fixed
deriving DecidableEq, Repr, Inhabited

namespace Weight

/-- Two weights are equal when they are the same number of pounds. -/
theorem eq_iff {v w : Weight} : v = w ↔ v.pounds.raw = w.pounds.raw := by
  refine ⟨fun h => by rw [h], fun h => ?_⟩
  obtain ⟨pounds⟩ := v
  obtain ⟨pounds'⟩ := w
  exact congrArg Weight.mk (Fixed.ext h)

/-- No weight. -/
def zero : Weight := ⟨0⟩

/-- The weight of a number of units. -/
def ofUnits (value : Fixed) (unit : WeightUnit) : Weight := ⟨unit.toPounds value⟩

instance : Add Weight := ⟨fun a b => ⟨a.pounds + b.pounds⟩⟩
instance : Sub Weight := ⟨fun a b => ⟨a.pounds - b.pounds⟩⟩
instance : HMul Weight Fixed Weight := ⟨fun w factor => ⟨w.pounds * factor⟩⟩

/-- The sum of a list, from left to right. -/
def sum (weights : List Weight) : Weight := weights.foldl (· + ·) zero

/-- The weight in a unit. -/
def format (w : Weight) (unit : WeightUnit) : String :=
  (unit.fromPounds w.pounds).text ++ " " ++ unit.key

/-- The weight in pounds. -/
def text (w : Weight) : String := w.format .pound

/-- The characters that the number of a weight is written with. -/
def isNumeric (c : Char) : Bool := Decimal.isDigit c || c == '.' || c == '-' || c == '+'

/-- Reads a number and a unit; without a unit the number counts pounds. -/
def parse (text : String) : Except UnknownWord Weight :=
  let chars := Text.trimChars text.toList
  let unit := chars.dropWhile isNumeric
  match Decimal.readFloat? (chars.takeWhile isNumeric) with
  | none => .error (.value "weight" (String.ofList chars))
  | some number =>
    let value := Fixed.ofFloat number
    if (Text.trimChars unit).isEmpty then .ok (ofUnits value .pound)
    else (WeightUnit.parse (String.ofList unit)).map (ofUnits value)

end Weight

end CharacterSheet
