/-!
Arithmetic modulo a prime on `Fin`: powers by repeated squaring, and the
inverse and the square root that a power of the element gives.
-/

namespace ObliviousTransfer.Modular

attribute [local instance (5000)] instPowNat instNatPowNat Zero.ofOfNat0

/-- The `count` lowest binary digits of a number, highest first. -/
def binaryDigits : Nat → Nat → List Bool
  | 0, _ => []
  | count + 1, value => value.testBit count :: binaryDigits count value

/-- The value of binary digits read after a number that is already there. -/
def digitsValue (start : Nat) (digits : List Bool) : Nat :=
  digits.foldl (fun value digit => 2 * value + digit.toNat) start

theorem digits_value_binary (count start value : Nat) :
    digitsValue start (binaryDigits count value) = start * 2 ^ count + value % 2 ^ count := by
  induction count generalizing start with
  | zero => simp [digitsValue, binaryDigits, Nat.mod_one]
  | succ count induction =>
      have step : digitsValue start (binaryDigits (count + 1) value) =
          digitsValue (2 * start + (value.testBit count).toNat) (binaryDigits count value) := rfl
      have split : value % 2 ^ (count + 1) =
          value % 2 ^ count + 2 ^ count * (value.testBit count).toNat := by
        rw [Nat.mod_pow_succ, Nat.toNat_testBit]
      have double : 2 * start * 2 ^ count = start * 2 ^ (count + 1) := by
        rw [Nat.pow_succ, Nat.mul_comm 2 start, Nat.mul_assoc, Nat.mul_comm 2]
      have digit : (value.testBit count).toNat * 2 ^ count =
          2 ^ count * (value.testBit count).toNat := Nat.mul_comm _ _
      rw [step, induction, Nat.add_mul]
      omega

def exponentBits : Nat := 256

/-- A power of a residue, for exponents below `2 ^ exponentBits`. -/
def power {modulus : Nat} [NeZero modulus] (base : Fin modulus) (exponent : Nat) : Fin modulus :=
  (binaryDigits exponentBits exponent).foldl
    (fun result digit => if digit then result * result * base else result * result) 1

/-- The inverse modulo a prime, and zero for zero: the power with exponent two below the prime. -/
def inverse {modulus : Nat} [NeZero modulus] (value : Fin modulus) : Fin modulus :=
  power value (modulus - 2)

/-- A square root of every square modulo a prime that is three modulo four. -/
def squareRoot {modulus : Nat} [NeZero modulus] (value : Fin modulus) : Fin modulus :=
  power value ((modulus + 1) / 4)

end ObliviousTransfer.Modular
