import Mathlib
import ObliviousTransfer.Curve.Multiple

/-!
Coordinates and scalars as elements of `ZMod`, where the algebra of a field is
at hand. The map keeps sums, products and powers by repeated squaring, so an
equation between residues can be proved there and carried back.
-/

namespace ObliviousTransfer.Modular

variable {modulus : Nat}

def residue (value : Fin modulus) : ZMod modulus := (value.val : ZMod modulus)

theorem residue_of_val {value : Fin modulus} {number : Nat}
    (same : value.val = number % modulus) : residue value = (number : ZMod modulus) := by
  rw [residue, same, ZMod.natCast_mod]

theorem residue_val (value : Fin modulus) : (residue value).val = value.val :=
  ZMod.val_cast_of_lt value.isLt

theorem residue_injective : Function.Injective (@residue modulus) := by
  intro left right same
  apply Fin.ext
  rw [← residue_val left, ← residue_val right, same]

theorem residue_eq_iff {left right : Fin modulus} : residue left = residue right ↔ left = right :=
  residue_injective.eq_iff

@[simp]
theorem residue_add (left right : Fin modulus) :
    residue (left + right) = residue left + residue right := by
  rw [residue_of_val (Fin.val_add left right), Nat.cast_add]
  rfl

@[simp]
theorem residue_mul (left right : Fin modulus) :
    residue (left * right) = residue left * residue right := by
  rw [residue_of_val (Fin.val_mul left right), Nat.cast_mul]
  rfl

theorem digits_value_exponent {count exponent : Nat} (small : exponent < 2 ^ count) :
    digitsValue 0 (binaryDigits count exponent) = exponent := by
  rw [digits_value_binary, Nat.zero_mul, Nat.zero_add]
  exact Nat.mod_eq_of_lt small

/-- The digits of an exponent, highest first, take a power along the same way as they take the
exponent itself. -/
theorem residue_power_digits (base result : Fin modulus) (value : Nat) (digits : List Bool)
    (reached : residue result = residue base ^ value) :
    residue (digits.foldl
      (fun result digit => if digit then result * result * base else result * result) result) =
      residue base ^ digitsValue value digits := by
  induction digits generalizing result value with
  | nil => exact reached
  | cons digit digits induction =>
      cases digit with
      | false =>
          apply induction (result * result) (2 * value)
          rw [residue_mul, reached, ← pow_add, two_mul]
      | true =>
          apply induction (result * result * base) (2 * value + 1)
          rw [residue_mul, residue_mul, reached, ← pow_add, ← pow_succ, two_mul]

section Arithmetic

variable [NeZero modulus]

@[simp]
theorem residue_of_nat (number : Nat) :
    residue (Fin.ofNat modulus number) = (number : ZMod modulus) :=
  residue_of_val rfl

@[simp]
theorem residue_zero : residue (0 : Fin modulus) = 0 :=
  (residue_of_nat 0).trans Nat.cast_zero

@[simp]
theorem residue_one : residue (1 : Fin modulus) = 1 :=
  (residue_of_nat 1).trans Nat.cast_one

@[simp]
theorem residue_numeral (number : Nat) [number.AtLeastTwo] :
    residue (ofNat(number) : Fin modulus) = ofNat(number) :=
  residue_of_nat number

@[simp]
theorem residue_neg (value : Fin modulus) : residue (-value) = -residue value := by
  apply eq_neg_of_add_eq_zero_left
  rw [← residue_add, neg_add_cancel, residue_zero]

@[simp]
theorem residue_sub (left right : Fin modulus) :
    residue (left - right) = residue left - residue right := by
  rw [sub_eq_add_neg, residue_add, residue_neg, ← sub_eq_add_neg]

theorem residue_eq_zero_iff {value : Fin modulus} : residue value = 0 ↔ value = 0 := by
  rw [← residue_zero, residue_eq_iff]

theorem residue_power (base : Fin modulus) {exponent : Nat} (small : exponent < 2 ^ exponentBits) :
    residue (power base exponent) = residue base ^ exponent := by
  have fold := residue_power_digits base 1 0 (binaryDigits exponentBits exponent)
    (by rw [residue_one, pow_zero])
  rwa [digits_value_exponent small] at fold

theorem residue_inverse [Fact modulus.Prime] (odd : 2 < modulus)
    (small : modulus ≤ 2 ^ exponentBits) (value : Fin modulus) :
    residue (inverse value) = (residue value)⁻¹ := by
  rw [inverse, residue_power value (by omega)]
  by_cases zero : residue value = 0
  · rw [zero, inv_zero, zero_pow (by omega)]
  · apply eq_inv_of_mul_eq_one_left
    rw [← pow_succ, show modulus - 2 + 1 = modulus - 1 by omega]
    exact ZMod.pow_card_sub_one_eq_one zero

end Arithmetic
end ObliviousTransfer.Modular
