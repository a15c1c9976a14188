import ObliviousTransfer.Curve.Encoding

/-!
A tape of random bytes. It hands out its bytes in order, and the byte one for
ever after, so that every draw comes to an end.
-/

namespace ObliviousTransfer

structure Tape where
  bytes : List Byte
  /-- How many bytes have been handed out. -/
  drawn : Nat
  deriving DecidableEq

namespace Tape

def ofBytes (bytes : List Byte) : Tape := ⟨bytes, 0⟩

def next (tape : Tape) (count : Nat) : List Byte :=
  tape.bytes.take count ++ List.replicate (count - tape.bytes.length) 1

def advance (tape : Tape) (count : Nat) : Tape := ⟨tape.bytes.drop count, tape.drawn + count⟩

theorem next_length (tape : Tape) (count : Nat) : (tape.next count).length = count := by
  simp only [next, List.length_append, List.length_take, List.length_replicate]
  omega

def octets (tape : Tape) (count : Nat) : Octets count × Tape :=
  (⟨tape.next count, tape.next_length count⟩, tape.advance count)

theorem next_scalar_in_range {tape : Tape} (empty : tape.bytes = []) :
    bigEndianValue (tape.next scalarBytes) < groupOrder := by
  simp only [next, empty]
  decide

/-- Draws 32 bytes until they make a number below the order of the group. -/
def scalar (tape : Tape) : Scalar × Tape :=
  let value := bigEndianValue (tape.next scalarBytes)
  if inRange : value < groupOrder then (⟨value, inRange⟩, tape.advance scalarBytes)
  else (tape.advance scalarBytes).scalar
termination_by tape.bytes.length
decreasing_by
  have nonempty : tape.bytes.length ≠ 0 := fun none =>
    inRange (next_scalar_in_range (List.eq_nil_of_length_eq_zero none))
  simp only [advance, scalarBytes, List.length_drop]
  omega

theorem scalar_of_in_range {tape : Tape}
    (inRange : bigEndianValue (tape.next scalarBytes) < groupOrder) :
    tape.scalar =
      (⟨bigEndianValue (tape.next scalarBytes), inRange⟩, tape.advance scalarBytes) := by
  rw [scalar, dif_pos inRange]

theorem scalar_of_encoded (a : Scalar) : (ofBytes (encodeScalar a).bytes).scalar.1 = a := by
  have bytes : (ofBytes (encodeScalar a).bytes).next scalarBytes = (encodeScalar a).bytes := by
    rw [next, ofBytes, (encodeScalar a).length_eq, Nat.sub_self]
    simp [List.take_of_length_le (Nat.le_of_eq (encodeScalar a).length_eq)]
  have value : bigEndianValue ((ofBytes (encodeScalar a).bytes).next scalarBytes) = a.val := by
    rw [bytes, encodeScalar, Octets.ofNat, big_endian_value_of]
    exact Nat.mod_eq_of_lt (Nat.lt_trans a.isLt (by decide))
  rw [scalar_of_in_range (value ▸ a.isLt)]
  exact Fin.ext value

theorem drawn_lt_scalar (tape : Tape) : tape.drawn < tape.scalar.2.drawn := by
  induction tape using scalar.induct with
  | case1 tape value inRange =>
      rw [scalar_of_in_range inRange]
      exact Nat.lt_add_of_pos_right (by decide)
  | case2 tape value outOfRange ih =>
      rw [scalar, dif_neg outOfRange]
      exact Nat.lt_of_le_of_lt (Nat.le_add_right _ _) ih

end Tape

end ObliviousTransfer
