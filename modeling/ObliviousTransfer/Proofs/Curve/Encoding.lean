import ObliviousTransfer.Curve.Encoding
import ObliviousTransfer.Proofs.Curve.Order
import ObliviousTransfer.Proofs.Fallible

/-!
Reading a point that was written gives the point back, unless it is the
identity, which is written as zeros and refused. Each form is read exactly from
the bytes of the coordinates of a point. Every scalar is read back.
-/

namespace ObliviousTransfer

open ObliviousTransfer.Modular

/-- The field prime is three modulo four, so a power of a square is one of its roots. -/
theorem square_root_of_square (y : Coordinate) :
    squareRoot (y * y) = y ∨ squareRoot (y * y) = -y := by
  have value : residue (squareRoot (y * y)) = residue y * residue y ^ (fieldPrime / 2) := by
    have half : 2 * ((fieldPrime + 1) / 4) = fieldPrime / 2 + 1 := by decide
    rw [squareRoot, residue_power _ (by decide), residue_mul, ← pow_two, ← pow_mul, half,
      pow_succ, mul_comm]
  by_cases zero : residue y = 0
  · left
    apply residue_injective
    rw [value, zero, zero_mul]
  · rcases ZMod.pow_div_two_eq_neg_one_or_one fieldPrime zero with one | negated
    · left
      apply residue_injective
      rw [value, one, mul_one]
    · right
      apply residue_injective
      rw [value, negated, residue_neg, mul_neg_one]

theorem of_x_parity {x y : Coordinate} (onCurve : OnCurve x y) :
    Point.ofX? x (y.val % 2 == 1) = some (.affine x y onCurve) := by
  have roots := square_root_of_square y
  rw [onCurve] at roots
  unfold Point.ofX?
  generalize squareRoot (x * x * x + 7) = root at roots
  simp only []
  split_ifs with parity
  · have same : root = y := by
      rcases roots with same | opposite
      · exact same
      · apply on_curve_parity (opposite ▸ Point.on_curve_negate onCurve) onCurve
        rw [Bool.eq_iff_iff, beq_iff_eq, beq_iff_eq] at parity
        omega
    rw [same, Point.of_coordinates_affine x y onCurve]
  · have opposite : root = -y := by
      rcases roots with same | opposite
      · exact absurd (by rw [same]) parity
      · exact opposite
    rw [opposite, neg_neg, Point.of_coordinates_affine x y onCurve]

theorem of_x_eq_some_iff {x : Coordinate} {odd : Bool} {point : Point} :
    Point.ofX? x odd = some point ↔
      ∃ (y : Coordinate) (onCurve : OnCurve x y),
        (y.val % 2 == 1) = odd ∧ point = .affine x y onCurve := by
  constructor
  · intro found
    unfold Point.ofX? Point.ofCoordinates? at found
    generalize squareRoot (x * x * x + 7) = root at found
    simp only [] at found
    split_ifs at found with parity onCurve onCurve
    · exact ⟨root, onCurve, parity, (Option.some.inj found).symm⟩
    · refine ⟨-root, onCurve, ?_, (Option.some.inj found).symm⟩
      have nonzero : root ≠ 0 := neg_ne_zero.mp (on_curve_y_ne_zero onCurve)
      have flips := coordinate_negate_parity nonzero
      cases odd <;> simp only [beq_iff_eq, beq_eq_false_iff_ne, ne_eq] at parity ⊢ <;> omega
  · rintro ⟨y, onCurve, parity, rfl⟩
    rw [← parity, of_x_parity onCurve]

theorem encode_coordinate_value (x : Coordinate) :
    bigEndianValue (encodeCoordinate x).bytes = x.val := by
  rw [encodeCoordinate, Octets.ofNat, big_endian_value_of]
  exact Nat.mod_eq_of_lt (x.isLt.trans (by decide))

theorem encode_coordinate_injective : Function.Injective encodeCoordinate := by
  intro left right same
  apply Fin.ext
  rw [← encode_coordinate_value left, same, encode_coordinate_value]

theorem Point.x_bytes_eq_iff {left right : Point} :
    left.xBytes = right.xBytes ↔ right = left ∨ right = -left := by
  constructor
  · intro same
    have sameX : left.xCoordinate = right.xCoordinate := encode_coordinate_injective same
    cases left with
    | identity => cases right with
      | identity => exact Or.inl rfl
      | affine x y onCurve => exact absurd sameX.symm (on_curve_x_ne_zero onCurve)
    | affine x₁ y₁ onCurve₁ => cases right with
      | identity => exact absurd sameX (on_curve_x_ne_zero onCurve₁)
      | affine x₂ y₂ onCurve₂ =>
          have sameCoordinate : x₁ = x₂ := sameX
          subst sameCoordinate
          rcases on_curve_opposite onCurve₂ onCurve₁ with sameY | opposite
          · subst sameY
            exact Or.inl rfl
          · subst opposite
            exact Or.inr rfl
  · rintro (same | opposite)
    · rw [same]
    · rw [opposite]
      cases left <;> rfl

theorem decode_coordinate_encode (x : Coordinate) :
    decodeCoordinate (encodeCoordinate x).bytes = .ok x := by
  simp only [decodeCoordinate, encode_coordinate_value, x.isLt, dite_true]

theorem encode_of_decode_coordinate {bytes : List Byte} {x : Coordinate} (size : bytes.length = 32)
    (decoded : decodeCoordinate bytes = .ok x) : (encodeCoordinate x).bytes = bytes := by
  unfold decodeCoordinate at decoded
  split_ifs at decoded with inRange
  cases decoded
  change bigEndian 32 (bigEndianValue bytes) = bytes
  rw [← size, big_endian_of_value]

theorem decode_compressed_encode {x y : Coordinate} (onCurve : OnCurve x y) :
    decodeCompressed (y.val % 2 == 1) (encodeCoordinate x).bytes = .ok (.affine x y onCurve) := by
  rw [decodeCompressed, if_pos (encodeCoordinate x).length_eq, decode_coordinate_encode]
  simp only [bind, Except.bind]
  rw [of_x_parity onCurve]
  rfl

theorem decode_compressed_ok_iff {odd : Bool} {body : List Byte} {point : Point} :
    decodeCompressed odd body = .ok point ↔
      ∃ (x y : Coordinate) (onCurve : OnCurve x y), body = (encodeCoordinate x).bytes ∧
        (y.val % 2 == 1) = odd ∧ point = .affine x y onCurve := by
  constructor
  · intro decoded
    unfold decodeCompressed at decoded
    split_ifs at decoded with size
    obtain ⟨x, coordinate, found⟩ := except_bind_ok_iff.mp decoded
    obtain ⟨y, onCurve, parity, same⟩ := of_x_eq_some_iff.mp (option_elim_ok_iff.mp found)
    exact ⟨x, y, onCurve, (encode_of_decode_coordinate size coordinate).symm, parity, same⟩
  · rintro ⟨x, y, onCurve, rfl, rfl, rfl⟩
    exact decode_compressed_encode onCurve

theorem decode_uncompressed_ok_iff {body : List Byte} {point : Point} :
    decodeUncompressed body = .ok point ↔
      ∃ (x y : Coordinate) (onCurve : OnCurve x y),
        body = (encodeCoordinate x).bytes ++ (encodeCoordinate y).bytes ∧
          point = .affine x y onCurve := by
  constructor
  · intro decoded
    unfold decodeUncompressed at decoded
    split_ifs at decoded with size
    obtain ⟨x, first, rest⟩ := except_bind_ok_iff.mp decoded
    obtain ⟨y, second, found⟩ := except_bind_ok_iff.mp rest
    have located : Point.ofCoordinates? x y = some point := option_elim_ok_iff.mp found
    unfold Point.ofCoordinates? at located
    split_ifs at located with onCurve
    have front : (encodeCoordinate x).bytes = body.take 32 :=
      encode_of_decode_coordinate (by rw [List.length_take, size]; rfl) first
    have back : (encodeCoordinate y).bytes = body.drop 32 :=
      encode_of_decode_coordinate (by rw [List.length_drop, size]) second
    refine ⟨x, y, onCurve, ?_, (Option.some.inj located).symm⟩
    rw [front, back, List.take_append_drop]
  · rintro ⟨x, y, onCurve, rfl, rfl⟩
    have front : ((encodeCoordinate x).bytes ++ (encodeCoordinate y).bytes).take 32 =
        (encodeCoordinate x).bytes := List.take_left' (encodeCoordinate x).length_eq
    have back : ((encodeCoordinate x).bytes ++ (encodeCoordinate y).bytes).drop 32 =
        (encodeCoordinate y).bytes := List.drop_left' (encodeCoordinate x).length_eq
    have size : ((encodeCoordinate x).bytes ++ (encodeCoordinate y).bytes).length = 64 := by
      rw [List.length_append, (encodeCoordinate x).length_eq, (encodeCoordinate y).length_eq]
    rw [decodeUncompressed, if_pos size, front, back, decode_coordinate_encode,
      decode_coordinate_encode]
    exact option_elim_ok_iff.mpr (Point.of_coordinates_affine x y onCurve)

/-- With a tag for the parity a point has one spelling, the one that is written. -/
theorem encode_of_decode_compressed {odd : Bool} {body : List Byte} {point : Point}
    (decoded : decodeCompressed odd body = .ok point) :
    (encodePoint point).bytes = parityTag odd :: body := by
  obtain ⟨x, y, onCurve, rfl, rfl, rfl⟩ := decode_compressed_ok_iff.mp decoded
  rfl

theorem decode_compressed_ne_identity {odd : Bool} {body : List Byte} {point : Point}
    (decoded : decodeCompressed odd body = .ok point) : point ≠ .identity := by
  obtain ⟨x, y, onCurve, _, _, rfl⟩ := decode_compressed_ok_iff.mp decoded
  exact Point.noConfusion

theorem decode_uncompressed_ne_identity {body : List Byte} {point : Point}
    (decoded : decodeUncompressed body = .ok point) : point ≠ .identity := by
  obtain ⟨x, y, onCurve, _, rfl⟩ := decode_uncompressed_ok_iff.mp decoded
  exact Point.noConfusion

theorem decode_point_ne_identity {bytes : List Byte} {point : Point}
    (decoded : decodePoint bytes = .ok point) : point ≠ .identity := by
  cases bytes with
  | nil => cases decoded
  | cons tag body =>
      simp only [decodePoint] at decoded
      split_ifs at decoded
      · exact decode_compressed_ne_identity decoded
      · exact decode_compressed_ne_identity decoded
      · exact decode_uncompressed_ne_identity decoded
      · exact decode_compressed_ne_identity decoded

theorem decode_point_compact (body : List Byte) :
    decodePoint (5 :: body) = decodePoint (2 :: body) := rfl

theorem decode_point_encode {point : Point} (notIdentity : point ≠ .identity) :
    decodePoint (encodePoint point).bytes = .ok point := by
  cases point with
  | identity => exact absurd rfl notIdentity
  | affine x y onCurve =>
      have body := decode_compressed_encode onCurve
      change decodePoint (parityTag (y.val % 2 == 1) :: (encodeCoordinate x).bytes) = _
      generalize (y.val % 2 == 1) = odd at body
      cases odd <;> exact body

theorem decode_point_identity : decodePoint (encodePoint .identity).bytes = .error .pointForm := rfl

theorem encode_scalar_value (scalar : Scalar) :
    bigEndianValue (encodeScalar scalar).bytes = scalar.val := by
  rw [encodeScalar, Octets.ofNat, big_endian_value_of]
  exact Nat.mod_eq_of_lt (scalar.isLt.trans (by decide))

theorem encode_scalar_injective : Function.Injective encodeScalar := by
  intro left right same
  apply Fin.ext
  rw [← encode_scalar_value left, same, encode_scalar_value]

theorem decode_scalar_encode (scalar : Scalar) :
    decodeScalar (encodeScalar scalar).bytes = .ok scalar := by
  rw [decodeScalar, if_pos (encodeScalar scalar).length_eq]
  simp only [encode_scalar_value, scalar.isLt, dite_true]

theorem scalar_of_hash_encode (scalar : Scalar) :
    scalarOfHash (encodeScalar scalar).bytes = scalar := by
  apply Fin.ext
  rw [scalarOfHash, List.take_of_length_le (Nat.le_of_eq (encodeScalar scalar).length_eq),
    encode_scalar_value]
  exact Nat.mod_eq_of_lt scalar.isLt

end ObliviousTransfer
