import ObliviousTransfer.Proofs.Ecdsa.Compact

/-!
What the compact form gives back. Its coordinate and its parity are those of one
point of the curve, and with the scalar of the form this point makes a signature
that is accepted where the first one is. Where `r` is not zero it can be divided
out of the check, so that the key follows from the signature and the hash.
-/

namespace ObliviousTransfer

open ObliviousTransfer.Modular

theorem Point.x_coordinate_negate (point : Point) : (-point).xCoordinate = point.xCoordinate := by
  cases point <;> rfl

theorem Point.eq_of_x_parity {left right : Point} (leftPoint : left ≠ .identity)
    (rightPoint : right ≠ .identity) (sameX : left.xCoordinate = right.xCoordinate)
    (sameParity : left.oddY = right.oddY) : left = right := by
  apply Point.compressed_injective
  cases left with
  | identity => exact absurd rfl leftPoint
  | affine x₁ y₁ _ => cases right with
    | identity => exact absurd rfl rightPoint
    | affine x₂ y₂ _ => exact congrArg some (Prod.ext sameX sameParity)

namespace Signature

/-- The one of a signature and its mirrored one that has the smaller scalar. -/
def lowered (signature : Signature) : Signature :=
  if isHigh signature.s then signature.mirrored else signature

theorem lowered_cases (signature : Signature) :
    signature.lowered = signature ∨ signature.lowered = signature.mirrored := by
  rw [lowered]
  split_ifs
  · exact Or.inr rfl
  · exact Or.inl rfl

theorem lowered_s (signature : Signature) : signature.lowered.s = signature.lowS := by
  rw [lowered, lowS]
  split_ifs <;> rfl

theorem lowered_x (signature : Signature) :
    signature.lowered.r.xCoordinate = signature.r.xCoordinate := by
  rcases signature.lowered_cases with same | mirror
  · rw [same]
  · rw [mirror]
    exact Point.x_coordinate_negate signature.r

theorem lowered_x_scalar (signature : Signature) :
    signature.lowered.r.xScalar = signature.r.xScalar :=
  congrArg (fun x : Coordinate => Scalar.reduce x.val) signature.lowered_x

theorem verify_lowered_iff (signature : Signature) (publicKey : Point) (hash : List Byte) :
    signature.lowered.verify publicKey hash = true ↔ signature.verify publicKey hash = true := by
  rcases signature.lowered_cases with same | mirror
  · rw [same]
  · rw [mirror, verify_mirrored_iff]

/-- The turn of the byte goes with that of the point, whether there is one or not. -/
theorem recovery_byte_lowered {signature : Signature} (notIdentity : signature.r ≠ .identity) :
    signature.recoveryByte = if signature.lowered.r.oddY then 1 else 0 := by
  rw [recoveryByte, lowered]
  cases isHigh signature.s with
  | false => rw [Bool.xor_false, if_neg Bool.false_ne_true]
  | true =>
      have turned : signature.mirrored.r.oddY = !signature.r.oddY := Point.odd_y_negate notIdentity
      rw [Bool.xor_true, if_pos rfl, turned]

theorem compact_coordinate (signature : Signature) :
    bigEndianValue (signature.compact.bytes.take 32) = signature.r.xCoordinate.val := by
  rw [compact_bytes, List.take_left' signature.r.xBytes.length_eq]
  exact encode_coordinate_value signature.r.xCoordinate

theorem compact_scalar_value (signature : Signature) :
    bigEndianValue ((signature.compact.bytes.drop 32).take 32) = signature.lowS.val := by
  rw [compact_middle, encode_scalar_value]

/-- The key that the check of a signature leaves, once `r` is divided out. -/
def recoveredKey (signature : Signature) (hash : List Byte) : Point :=
  inverse signature.r.xScalar • (signature.s • signature.r - scalarOfHash hash • Point.generator)

theorem verify_iff_recovered {signature : Signature} (nonzeroR : signature.r.xScalar ≠ 0)
    (publicKey : Point) (hash : List Byte) :
    signature.verify publicKey hash = true ↔
      signature.s ≠ 0 ∧ signature.r ≠ .identity ∧ publicKey ≠ .identity ∧
        signature.recoveredKey hash = publicKey := by
  rw [verify_iff, recoveredKey, Point.inverse_smul_eq_iff nonzeroR, sub_eq_iff_eq_add']

end Signature

structure IsCompactPoint (form : List Byte) (point : Point) : Prop where
  not_identity : point ≠ .identity
  coordinate : point.xCoordinate.val = bigEndianValue (form.take 32)
  parity : form[64]? = some (UInt8.ofNat (point.yCoordinate.val % 2))

theorem Point.odd_y_byte (point : Point) :
    UInt8.ofNat (point.yCoordinate.val % 2) = if point.oddY then 1 else 0 := by
  rw [Point.oddY]
  rcases Nat.mod_two_eq_zero_or_one point.yCoordinate.val with even | odd
  · rw [even]
    rfl
  · rw [odd]
    rfl

theorem is_compact_point_iff {signature : Signature} (notIdentity : signature.r ≠ .identity)
    {point : Point} :
    IsCompactPoint signature.compact.bytes point ↔ point = signature.lowered.r := by
  have lowered : signature.lowered.r ≠ .identity := by
    rcases signature.lowered_cases with same | mirror
    · rwa [same]
    · rw [mirror]
      exact mt Point.negate_eq_identity_iff.mp notIdentity
  have byte : signature.compact.bytes[64]? =
      some (if signature.lowered.r.oddY then 1 else 0) := by
    rw [signature.compact_last, Signature.recovery_byte_lowered notIdentity]
  constructor
  · rintro ⟨isPoint, coordinate, parity⟩
    refine Point.eq_of_x_parity isPoint lowered ?_ ?_
    · apply Fin.ext
      rw [coordinate, signature.compact_coordinate, signature.lowered_x]
    · rw [byte, Option.some_inj, Point.odd_y_byte] at parity
      revert parity
      cases point.oddY <;> cases signature.lowered.r.oddY <;> decide
  · rintro rfl
    refine ⟨lowered, ?_, ?_⟩
    · rw [signature.compact_coordinate, signature.lowered_x]
    · rw [byte, Point.odd_y_byte]

/-- The compact form of an accepted signature is that of just one point and one scalar. They are
accepted as well, and give the key back. -/
theorem compact_recovers_key {signature : Signature} {publicKey : Point} {hash : List Byte}
    (accepted : signature.verify publicKey hash = true) (nonzeroR : signature.r.xScalar ≠ 0) :
    let form := signature.compact.bytes
    let r := signature.r.xScalar
    let m := scalarOfHash hash
    ∃ (point : Point) (s : Scalar),
      (∀ other, IsCompactPoint form other ↔ other = point) ∧
      decodeScalar ((form.drop 32).take 32) = .ok s ∧
      Signature.verify ⟨point, s⟩ publicKey hash = true ∧
      inverse r * r = 1 ∧ inverse r • (s • point - m • Point.generator) = publicKey := by
  intro form r m
  have notIdentity : signature.r ≠ .identity := ((Signature.verify_iff _ _ _).mp accepted).2.1
  have sameR : signature.lowered.r.xScalar = r := signature.lowered_x_scalar
  have loweredAccepted : signature.lowered.verify publicKey hash = true :=
    (signature.verify_lowered_iff publicKey hash).mpr accepted
  have recovered : signature.lowered.recoveredKey hash = publicKey :=
    ((Signature.verify_iff_recovered (sameR ▸ nonzeroR) publicKey hash).mp loweredAccepted).2.2.2
  refine ⟨signature.lowered.r, signature.lowered.s, fun _ => is_compact_point_iff notIdentity, ?_,
    loweredAccepted, scalar_inverse_mul nonzeroR, ?_⟩
  · rw [signature.lowered_s]
    exact signature.compact_scalar
  · rw [← sameR]
    exact recovered

/-- The secret three and the nonce minus one, which give an `s` of the upper half: the point of the
form is the opposite one. -/
theorem compact_recovers_key_at_three :
    let secret : Scalar := 3
    let publicKey := secret • Point.generator
    let hash : List Byte := [1]
    let nonce := -Point.generator
    let signature : Signature := ⟨nonce, -(scalarOfHash hash + nonce.xScalar * secret)⟩
    signature.verify publicKey hash = true ∧ signature.r.xScalar ≠ 0 ∧
      IsCompactPoint signature.compact.bytes Point.generator ∧
      ∃ s : Scalar, decodeScalar ((signature.compact.bytes.drop 32).take 32) = .ok s ∧
        inverse signature.r.xScalar •
          (s • Point.generator - scalarOfHash hash • Point.generator) = publicKey := by
  intro secret publicKey hash nonce signature
  have accepted : signature.verify publicKey hash = true := by decide +kernel
  have nonzeroR : signature.r.xScalar ≠ 0 := by decide
  obtain ⟨point, s, located, read, -, -, recovered⟩ := compact_recovers_key accepted nonzeroR
  have opposite : IsCompactPoint signature.compact.bytes Point.generator := by
    constructor <;> decide +kernel
  cases (located Point.generator).mp opposite
  exact ⟨accepted, nonzeroR, opposite, s, read, recovered⟩

end ObliviousTransfer
