import Mathlib.Algebra.Order.Field.Rat
import Mathlib.Data.List.DropRight
import Mathlib.Tactic.NormNum
import Mathlib.Tactic.Ring
import CharacterSheet.Weight
import CharacterSheet.Proofs.JsonText

/-!
# The texts of numbers

The text of a fixed-point number is a decimal numeral without superfluous characters, and read as
an exact decimal it is the number, `Fixed.text_exact`. So different numbers have different texts,
and so have different weights.

The digits of the whole part and the four places behind the point are worked out from the absolute
value; the text leaves out the zeros at the end of the places. Put back, they give all digits of the
number of ten-thousandths, `Fixed.value_written`.
-/

namespace CharacterSheet

namespace Decimal

/-! ### The values of digits -/

@[simp] theorem value_digits (n : Nat) : value (digits n) = n := Nat.ofDigitChars_ten_toDigits

@[simp] theorem length_lastDigits (width n : Nat) : (lastDigits width n).length = width := by
  induction width generalizing n with
  | zero => rfl
  | succ width ih => rw [lastDigits, List.length_append, ih, List.length_singleton]

theorem value_lastDigits (width n : Nat) : value (lastDigits width n) = n % 10 ^ width := by
  induction width generalizing n with
  | zero => rw [Nat.pow_zero, Nat.mod_one]; rfl
  | succ width ih =>
      have hdigit : digitValue (n % 10).digitChar = n % 10 :=
        Nat.toNat_digitChar_sub_48_of_lt_ten (Nat.mod_lt n (by decide))
      have hlast : value (lastDigits (width + 1) n) =
          10 * value (lastDigits width (n / 10)) + digitValue (n % 10).digitChar :=
        valueFrom_append 0 _ _
      rw [hlast, hdigit, ih, Nat.pow_succ', Nat.mod_mul, Nat.add_comm]

/-- Zeros behind the digits multiply by ten. -/
theorem value_append_zeros {ds zeros : List Char} (h : ∀ c ∈ zeros, c = '0') :
    value (ds ++ zeros) = value ds * 10 ^ zeros.length := by
  have hzeros : zeros = List.replicate zeros.length '0' := List.eq_replicate_iff.2 ⟨rfl, h⟩
  calc value (ds ++ zeros)
      = Nat.ofDigitChars 10 zeros (value ds) := valueFrom_append 0 ds zeros
    _ = Nat.ofDigitChars 10 (List.replicate zeros.length '0') (value ds) := by rw [← hzeros]
    _ = value ds * 10 ^ zeros.length := by rw [Nat.ofDigitChars_replicate_zero, Nat.mul_comm]

/-! ### Exact decimals -/

/-- The number that a numeral stands for. -/
def Numeral.exact (n : Numeral) : ℚ :=
  (if n.negative then -1 else 1) * value (n.whole ++ n.fraction) *
    10 ^ (n.exponent.getD 0 - n.fraction.length)

/-- Reads the whole of a text as an exact decimal. -/
def readExact? (text : String) : Option ℚ :=
  match Json.readNumber? text.toList with
  | some (n, []) => some n.exact
  | _ => none

/-- A numeral without superfluous characters, with four places behind the point at most. -/
structure Numeral.Canonical (n : Numeral) : Prop where
  plain : n.Plain
  length_fraction : n.fraction.length ≤ 4
  getLast_fraction : n.fraction.getLast? ≠ some '0'

end Decimal

namespace Fixed

open Decimal (Numeral value lastDigits readExact?)

variable {a b : Fixed}

/-- The numeral that the text of a number is. -/
def written (a : Fixed) : Numeral where
  negative := a.raw < 0
  whole := Decimal.digits (a.raw.natAbs / 10000)
  fraction := a.fractionDigits

theorem toList_text (a : Fixed) : a.text.toList = a.written.chars := by
  simp [text, textChars, Numeral.chars, written]

/-- The places behind the point, with the zeros at their end. -/
theorem exists_fractionDigits_append (a : Fixed) : ∃ zeros : List Char, (∀ c ∈ zeros, c = '0') ∧
    a.fractionDigits ++ zeros = lastDigits 4 (a.raw.natAbs % 10000) := by
  refine ⟨(lastDigits 4 (a.raw.natAbs % 10000)).rtakeWhile (· == '0'), fun c hc => ?_,
    List.rdropWhile_append_rtakeWhile⟩
  have hzero := List.mem_rtakeWhile_imp hc
  exact beq_iff_eq.1 hzero

theorem length_fractionDigits_le (a : Fixed) : a.fractionDigits.length ≤ 4 := by
  obtain ⟨zeros, -, happend⟩ := a.exists_fractionDigits_append
  have hlength := congrArg List.length happend
  rw [List.length_append, Decimal.length_lastDigits] at hlength
  omega

theorem getLast?_fractionDigits_ne (a : Fixed) : a.fractionDigits.getLast? ≠ some '0' := by
  intro h
  have hne : a.fractionDigits ≠ [] := by
    intro hnil
    rw [hnil] at h
    cases h
  have hlast := List.rdropWhile_last_not (· == '0') (lastDigits 4 (a.raw.natAbs % 10000)) hne
  rw [List.getLast?_eq_some_getLast hne, Option.some.injEq] at h
  exact hlast (beq_iff_eq.2 h)

theorem canonical_written (a : Fixed) : a.written.Canonical where
  plain := by
    refine Numeral.plain_of_digits _ _ fun c hc => ?_
    exact Decimal.isDigit_lastDigits 4 _ c ((List.rdropWhile_prefix _ _).subset hc)
  length_fraction := a.length_fractionDigits_le
  getLast_fraction := a.getLast?_fractionDigits_ne

/-- The digits of a number with the zeros at their end are those of its ten-thousandths. -/
theorem value_written (a : Fixed) :
    value (a.written.whole ++ a.written.fraction) * 10 ^ (4 - a.written.fraction.length) =
      a.raw.natAbs := by
  obtain ⟨zeros, hzeros, happend⟩ := a.exists_fractionDigits_append
  have hlength : 4 - a.written.fraction.length = zeros.length := by
    have hall := congrArg List.length happend
    rw [List.length_append, Decimal.length_lastDigits] at hall
    exact Nat.sub_eq_of_eq_add' hall.symm
  calc value (a.written.whole ++ a.written.fraction) * 10 ^ (4 - a.written.fraction.length)
      = value (a.written.whole ++ a.fractionDigits ++ zeros) := by
        rw [hlength, Decimal.value_append_zeros hzeros]
        rfl
    _ = Decimal.valueFrom (value a.written.whole) (lastDigits 4 (a.raw.natAbs % 10000)) := by
        rw [List.append_assoc, happend]
        exact Decimal.valueFrom_append 0 _ _
    _ = a.raw.natAbs / 10000 * 10 ^ 4 + a.raw.natAbs % 10000 % 10 ^ 4 := by
        rw [Decimal.valueFrom_eq, Decimal.length_lastDigits, Decimal.value_lastDigits, written,
          Decimal.value_digits]
        rfl
    _ = a.raw.natAbs := by omega

/-- There are no places behind the point exactly if the number is whole. -/
theorem fractionDigits_eq_nil_iff : a.fractionDigits = [] ↔ 10000 ∣ a.raw := by
  have hdvd : 10000 ∣ a.raw ↔ a.raw.natAbs % 10000 = 0 := by omega
  rw [hdvd]
  constructor
  · intro hnil
    obtain ⟨zeros, hzeros, happend⟩ := a.exists_fractionDigits_append
    rw [hnil] at happend
    have hvalue : value ([] ++ zeros) = 0 * 10 ^ zeros.length := Decimal.value_append_zeros hzeros
    rw [happend, Decimal.value_lastDigits, Nat.zero_mul] at hvalue
    omega
  · intro hwhole
    rw [fractionDigits, hwhole]
    rfl

theorem exact_written (a : Fixed) : a.written.exact = a.raw / 10000 := by
  have hvalue : (value (a.written.whole ++ a.written.fraction) : ℚ) *
      10 ^ (4 - a.written.fraction.length) = a.raw.natAbs := by
    exact_mod_cast a.value_written
  have hpow : (10 : ℚ) ^ (4 - a.written.fraction.length) =
      10000 * 10 ^ (0 - a.written.fraction.length : ℤ) := by
    have hlength : a.written.fraction.length ≤ 4 := a.length_fractionDigits_le
    have hexponent : ((4 - a.written.fraction.length : ℕ) : ℤ) =
        4 + (0 - a.written.fraction.length) := by omega
    rw [← zpow_natCast, hexponent, zpow_add₀ (by norm_num)]
    norm_num
  have hsign : (if a.written.negative then -1 else 1 : ℚ) * (a.raw.natAbs : ℚ) = a.raw := by
    rw [Nat.cast_natAbs]
    by_cases hneg : a.raw < 0
    · rw [abs_of_neg hneg]
      simp [written, hneg]
    · rw [abs_of_nonneg (Int.not_lt.1 hneg)]
      simp [written, hneg]
  calc a.written.exact
      = (if a.written.negative then -1 else 1) *
          value (a.written.whole ++ a.written.fraction) *
            10 ^ (0 - a.written.fraction.length : ℤ) := rfl
    _ = (if a.written.negative then -1 else 1) * (a.raw.natAbs : ℚ) / 10000 := by
        rw [← hvalue, hpow]
        ring
    _ = a.raw / 10000 := by rw [hsign]

theorem readExact?_text (a : Fixed) : readExact? a.text = some (a.raw / 10000 : ℚ) := by
  have hread : Json.readNumber? (a.written.chars ++ []) = some (a.written, []) :=
    Json.readNumber?_chars a.canonical_written.plain fun _ h => nomatch h
  rw [List.append_nil] at hread
  rw [readExact?, toList_text, hread]
  exact congrArg some a.exact_written

/-- Different numbers have different texts. -/
theorem text_inj : a.text = b.text ↔ a = b := by
  refine ⟨fun h => ?_, fun h => h ▸ rfl⟩
  have hread := a.readExact?_text
  rw [h, readExact?_text, Option.some.injEq] at hread
  have hraw : (b.raw : ℚ) = a.raw := (div_left_inj' (by norm_num)).1 hread
  exact ext (by exact_mod_cast hraw.symm)

/-- **The text of a number is exact and canonical.** It is a minus sign, if the number is negative,
with the whole part behind it and, unless the number is whole, a point with up to four places, the
last of which is not a zero. Read as an exact decimal, it is the number. So no two numbers have the
same text. -/
theorem text_exact (a : Fixed) :
    (∃ n : Numeral, a.text.toList = n.chars ∧ n.Canonical ∧ (n.negative = true ↔ a.raw < 0) ∧
        (n.fraction = [] ↔ 10000 ∣ a.raw)) ∧
      readExact? a.text = some (a.raw / 10000 : ℚ) ∧ ∀ b : Fixed, a.text = b.text ↔ a = b :=
  ⟨⟨a.written, a.toList_text, a.canonical_written, by simp [written], fractionDigits_eq_nil_iff⟩,
    a.readExact?_text, fun _ => text_inj⟩

/-- The lowest number, a number between minus one and zero, and one with a zero among its places. -/
example : [undefined, { raw := -7 }, { raw := 120500 }].map text =
    ["-922337203685477.5808", "-0.0007", "12.05"] := by decide

end Fixed

/-- Different weights have different texts. -/
theorem Weight.text_inj {v w : Weight} : v.text = w.text ↔ v = w := by
  refine ⟨fun h => ?_, fun h => h ▸ rfl⟩
  have hnumbers : v.pounds.text = w.pounds.text := by
    have hchars := congrArg String.toList h
    exact String.toList_inj.1 (by simpa [text, format, WeightUnit.fromPounds] using hchars)
  rw [Weight.eq_iff, Fixed.text_inj.1 hnumbers]

end CharacterSheet
