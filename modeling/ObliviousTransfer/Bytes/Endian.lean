import ObliviousTransfer.Bytes.Octets

/-!
Numbers as byte strings in either order. Writing a number in `count` bytes
keeps its value modulo `256 ^ count`, and reading what was written in as many
bytes gives the same string back.
-/

namespace ObliviousTransfer

attribute [local instance (5000)] instPowNat instNatPowNat

/-- The `count` lowest bytes of a number, lowest first. -/
def littleEndian : Nat → Nat → List Byte
  | 0, _ => []
  | count + 1, value => UInt8.ofNat value :: littleEndian count (value / 256)

def littleEndianValue : List Byte → Nat
  | [] => 0
  | byte :: rest => byte.toNat + 256 * littleEndianValue rest

def bigEndian (count value : Nat) : List Byte := (littleEndian count value).reverse

def bigEndianValue (bytes : List Byte) : Nat := littleEndianValue bytes.reverse

theorem little_endian_length (count value : Nat) : (littleEndian count value).length = count := by
  induction count generalizing value with
  | zero => rfl
  | succ count induction => simp [littleEndian, induction]

theorem big_endian_length (count value : Nat) : (bigEndian count value).length = count := by
  simp [bigEndian, little_endian_length]

theorem little_endian_value_of (count value : Nat) :
    littleEndianValue (littleEndian count value) = value % 256 ^ count := by
  induction count generalizing value with
  | zero => simp [littleEndian, littleEndianValue, Nat.mod_one]
  | succ count induction =>
      have power : 256 ^ (count + 1) = 256 * 256 ^ count := by
        rw [Nat.pow_succ, Nat.mul_comm]
      rw [power, Nat.mod_mul]
      simp only [littleEndian, littleEndianValue, induction, UInt8.toNat_ofNat']

theorem little_endian_of_value (bytes : List Byte) :
    littleEndian bytes.length (littleEndianValue bytes) = bytes := by
  induction bytes with
  | nil => rfl
  | cons byte rest induction =>
      have small : byte.toNat < 256 := byte.toNat_lt
      have head : UInt8.ofNat (byte.toNat + 256 * littleEndianValue rest) = byte := by
        apply UInt8.toNat_inj.mp
        rw [UInt8.toNat_ofNat']
        omega
      have tail : (byte.toNat + 256 * littleEndianValue rest) / 256 = littleEndianValue rest := by
        omega
      simp only [List.length_cons, littleEndian, littleEndianValue, head, tail, induction]

theorem big_endian_value_of (count value : Nat) :
    bigEndianValue (bigEndian count value) = value % 256 ^ count := by
  simp [bigEndianValue, bigEndian, little_endian_value_of]

theorem big_endian_of_value (bytes : List Byte) :
    bigEndian bytes.length (bigEndianValue bytes) = bytes := by
  have reversed := little_endian_of_value bytes.reverse
  rw [List.length_reverse] at reversed
  rw [bigEndian, bigEndianValue, reversed, List.reverse_reverse]

def Octets.ofNat (size value : Nat) : Octets size :=
  ⟨bigEndian size value, big_endian_length size value⟩

end ObliviousTransfer
