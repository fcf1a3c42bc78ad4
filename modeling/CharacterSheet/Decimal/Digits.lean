/-!
# Decimal digits

The two directions between natural numbers and their decimal digits, and the parts of
a decimal text.
-/

namespace CharacterSheet.Decimal

def isDigit (c : Char) : Bool := '0' ≤ c && c ≤ '9'

/-- The value of a decimal digit. -/
def digitValue (c : Char) : Nat := c.toNat - '0'.toNat

/-- The number that a list of digits denotes, after the digits of `start`. -/
def valueFrom (start : Nat) (digits : List Char) : Nat :=
  digits.foldl (fun n d => 10 * n + digitValue d) start

/-- The number that a list of digits denotes. -/
def value (digits : List Char) : Nat := valueFrom 0 digits

theorem valueFrom_append (start : Nat) (ds es : List Char) :
    valueFrom start (ds ++ es) = valueFrom (valueFrom start ds) es :=
  List.foldl_append

/-- The digits of `start` stand before the others. -/
theorem valueFrom_eq (start : Nat) (ds : List Char) :
    valueFrom start ds = start * Nat.pow 10 ds.length + value ds := by
  induction ds generalizing start with
  | nil => simp [valueFrom, value]
  | cons d ds ih =>
    have h : valueFrom start (d :: ds) = valueFrom (10 * start + digitValue d) ds := rfl
    have h' : value (d :: ds) = valueFrom (10 * 0 + digitValue d) ds := rfl
    rw [h, h', ih, ih (10 * 0 + _)]
    simp only [List.length_cons, Nat.pow_eq, Nat.pow_succ]
    grind

/-- The digits of a number, without superfluous zeros. -/
def digits (n : Nat) : List Char := Nat.toDigits 10 n

/-- The last `width` digits of a number, with leading zeros. -/
def lastDigits : (width : Nat) → (n : Nat) → List Char
  | 0, _ => []
  | width + 1, n => lastDigits width (n / 10) ++ [Nat.digitChar (n % 10)]

/-- The number whose decimal is a one and a number of zeros. -/
def tenTo (zeros : Nat) : Nat := Nat.pow 10 zeros

/-! ### Splitting texts -/

/-- Splits off a sign: whether it is a minus, and the rest. -/
def splitSign : List Char → Bool × List Char
  | '-' :: rest => (true, rest)
  | '+' :: rest => (false, rest)
  | cs => (false, cs)

/-- Splits off the digits at the start. -/
def splitDigits (cs : List Char) : List Char × List Char :=
  (cs.takeWhile isDigit, cs.dropWhile isDigit)

end CharacterSheet.Decimal
