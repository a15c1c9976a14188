import ObliviousTransfer.Ecdsa.Signature
import ObliviousTransfer.Proofs.Curve.Encoding

/-!
Which signatures are accepted. Multiplied by `s`, the check is one equation of
the group, `s • R = m • G + r • X`. For multiples of the generator it is the
equation between scalars by which one signs. An accepted signature is bound to
the scalar of its hash and, unless `r` is zero, to its key; all that can be done
to it is to negate `R` and `s` together.
-/

namespace ObliviousTransfer

open ObliviousTransfer.Modular

theorem Point.x_scalar_eq_iff {point : Point} {r : Scalar} :
    point.xScalar = r ↔ point.xCoordinate.val % groupOrder = r.val := by
  rw [Fin.ext_iff]
  rfl

theorem Point.x_scalar_negate (point : Point) : (-point).xScalar = point.xScalar := by
  cases point <;> rfl

namespace Signature

theorem verify_iff (signature : Signature) (publicKey : Point) (hash : List Byte) :
    signature.verify publicKey hash = true ↔
      signature.s ≠ 0 ∧ signature.r ≠ .identity ∧ publicKey ≠ .identity ∧
        signature.s • signature.r =
          scalarOfHash hash • Point.generator + signature.r.xScalar • publicKey := by
  unfold verify
  split_ifs with degenerate
  · constructor
    · intro accepted
      cases accepted
    · rintro ⟨nonzero, point, key, _⟩
      rcases degenerate with zero | identity | identity
      · exact absurd zero nonzero
      · exact absurd identity point
      · exact absurd identity key
  · obtain ⟨nonzero, point, key⟩ : signature.s ≠ 0 ∧ signature.r ≠ .identity ∧
        publicKey ≠ .identity := by
      simpa only [not_or] using degenerate
    rw [decide_eq_true_iff, Point.inverse_smul_eq_iff nonzero, eq_comm]
    exact ⟨fun equation => ⟨nonzero, point, key, equation⟩, fun all => all.2.2.2⟩

theorem verify_multiples_iff (x k s : Scalar) (hash : List Byte) :
    let nonce := k • Point.generator
    verify ⟨nonce, s⟩ (x • Point.generator) hash = true ↔
      s ≠ 0 ∧ k ≠ 0 ∧ x ≠ 0 ∧ s * k = scalarOfHash hash + nonce.xScalar * x := by
  intro nonce
  have left : s • nonce = (s * k) • Point.generator := by
    simp only [nonce, Point.scalar_smul_eq, residue_mul]
    module
  have right : scalarOfHash hash • Point.generator + nonce.xScalar • (x • Point.generator) =
      (scalarOfHash hash + nonce.xScalar * x) • Point.generator := by
    simp only [Point.scalar_smul_eq, residue_mul, residue_add]
    module
  rw [verify_iff, left, right, Point.generator_smul_inj]
  simp only [nonce, ne_eq, Point.generator_smul_eq_identity_iff]

end Signature

/-- A signature is accepted just if it satisfies the equation by which one signs, and the signer's
scalar is the only one that goes with its nonce. -/
theorem verify_iff_signing_equation (x k s : Scalar) (hash : List Byte) :
    let publicKey := x • Point.generator
    let nonce := k • Point.generator
    let r := nonce.xScalar
    let m := scalarOfHash hash
    let accepted := Signature.verify ⟨nonce, s⟩ publicKey hash = true
    nonce.xCoordinate.val % groupOrder = r.val ∧
      m.val = bigEndianValue (hash.take (min 32 hash.length)) % groupOrder ∧
      (accepted ↔ s ≠ 0 ∧ k ≠ 0 ∧ x ≠ 0 ∧ s * k = m + r * x) ∧
      (k ≠ 0 → x ≠ 0 →
        let signed := inverse k * (m + r * x)
        inverse k * k = 1 ∧ (accepted ↔ s = signed ∧ signed ≠ 0)) := by
  intro publicKey nonce r m accepted
  have equation : accepted ↔ s ≠ 0 ∧ k ≠ 0 ∧ x ≠ 0 ∧ s * k = m + r * x :=
    Signature.verify_multiples_iff x k s hash
  refine ⟨Point.x_scalar_eq_iff.mp rfl, ?_, equation, ?_⟩
  · rw [← List.take_eq_take_min]
    rfl
  · intro nonceNonzero secretNonzero signed
    refine ⟨scalar_inverse_mul nonceNonzero, ?_⟩
    have signedIff : s * k = m + r * x ↔ s = signed := scalar_mul_eq_iff nonceNonzero s _
    rw [equation, signedIff]
    constructor
    · rintro ⟨nonzero, _, _, same⟩
      rw [← same]
      exact ⟨rfl, nonzero⟩
    · rintro ⟨same, nonzero⟩
      rw [same]
      exact ⟨nonzero, nonceNonzero, secretNonzero, rfl⟩

namespace Signature

/-- The signature with the opposite point, for which `s` changes its sign too. -/
def mirrored (signature : Signature) : Signature := ⟨-signature.r, -signature.s⟩

theorem mirrored_mirrored (signature : Signature) : signature.mirrored.mirrored = signature :=
  Signature.ext (neg_neg signature.r) (neg_neg signature.s)

theorem verify_mirrored_iff (signature : Signature) (publicKey : Point) (hash : List Byte) :
    signature.mirrored.verify publicKey hash = true ↔ signature.verify publicKey hash = true := by
  rw [verify_iff, verify_iff]
  simp only [mirrored, ne_eq, neg_eq_zero, Point.negate_eq_identity_iff, Point.negate_smul_negate,
    Point.x_scalar_negate]

section Accepted

variable {signature : Signature} {publicKey : Point} {hash : List Byte}
  (accepted : signature.verify publicKey hash = true)
include accepted

theorem verify_hash_iff (other : List Byte) :
    signature.verify publicKey other = true ↔ scalarOfHash other = scalarOfHash hash := by
  obtain ⟨nonzero, point, key, equation⟩ := (verify_iff _ _ _).mp accepted
  rw [verify_iff]
  constructor
  · rintro ⟨_, _, _, otherEquation⟩
    exact Point.generator_smul_inj.mp (add_right_cancel (otherEquation.symm.trans equation))
  · intro same
    rw [same]
    exact ⟨nonzero, point, key, equation⟩

theorem verify_key_iff (nonzeroR : signature.r.xScalar ≠ 0) (other : Point) :
    signature.verify other hash = true ↔ other = publicKey := by
  obtain ⟨_, _, _, equation⟩ := (verify_iff _ _ _).mp accepted
  constructor
  · intro otherAccepted
    obtain ⟨_, _, _, otherEquation⟩ := (verify_iff _ _ _).mp otherAccepted
    exact (Point.scalar_smul_inj nonzeroR).mp (add_left_cancel (otherEquation.symm.trans equation))
  · intro same
    rw [same]
    exact accepted

/-- Without an `r` the key has no part in the check. -/
theorem verify_any_key_iff (zeroR : signature.r.xScalar = 0) (other : Point) :
    signature.verify other hash = true ↔ other ≠ .identity := by
  obtain ⟨nonzero, point, _, equation⟩ := (verify_iff _ _ _).mp accepted
  have absent (key : Point) : signature.r.xScalar • key = 0 := by
    rw [zeroR, Point.scalar_smul_eq, residue_zero, zero_smul]
  rw [absent] at equation
  rw [verify_iff, absent]
  exact ⟨fun all => all.2.2.1, fun notIdentity => ⟨nonzero, point, notIdentity, equation⟩⟩

theorem verify_same_point_iff {candidate : Signature} (samePoint : candidate.r = signature.r) :
    candidate.verify publicKey hash = true ↔ candidate = signature := by
  obtain ⟨_, point, _, equation⟩ := (verify_iff _ _ _).mp accepted
  constructor
  · intro candidateAccepted
    obtain ⟨_, _, _, candidateEquation⟩ := (verify_iff _ _ _).mp candidateAccepted
    rw [samePoint] at candidateEquation
    exact Signature.ext samePoint
      ((Point.smul_point_inj point).mp (candidateEquation.trans equation.symm))
  · intro same
    rw [same]
    exact accepted

theorem verify_opposite_point_iff {candidate : Signature} (opposite : candidate.r = -signature.r) :
    candidate.verify publicKey hash = true ↔ candidate = signature.mirrored := by
  have samePoint : candidate.mirrored.r = signature.r := by
    rw [mirrored, opposite, neg_neg]
  rw [← verify_mirrored_iff, verify_same_point_iff accepted samePoint]
  constructor
  · intro same
    rw [← same, mirrored_mirrored]
  · intro same
    rw [same, mirrored_mirrored]

end Accepted

/-- There is a point whose `x` is the order of the group, so some signature is accepted under every
key. -/
theorem exists_verify_any_key :
    ∃ (signature : Signature) (hash : List Byte), signature.r.xScalar = 0 ∧
      ∀ publicKey, signature.verify publicKey hash = true ↔ publicKey ≠ .identity := by
  let x : Coordinate := ⟨groupOrder, by decide⟩
  have hasPoint : (Point.ofX? x false).isSome := by decide +kernel
  obtain ⟨point, found⟩ := Option.isSome_iff_exists.mp hasPoint
  obtain ⟨y, onCurve, _, rfl⟩ := of_x_eq_some_iff.mp found
  have zeroR : (Point.affine x y onCurve).xScalar = 0 := Fin.ext (Nat.mod_self groupOrder)
  obtain ⟨k, multiple⟩ := (Point.affine x y onCurve).exists_generator_smul
  refine ⟨⟨.affine x y onCurve, 1⟩, (encodeScalar k).bytes, zeroR, ?_⟩
  have accepted : verify ⟨.affine x y onCurve, 1⟩ Point.generator (encodeScalar k).bytes = true := by
    have oneNonzero : (1 : Scalar) ≠ 0 := by decide
    rw [verify_iff]
    refine ⟨oneNonzero, Point.noConfusion, Point.noConfusion, ?_⟩
    rw [scalar_of_hash_encode, multiple, zeroR, Point.scalar_smul_eq, Point.scalar_smul_eq,
      residue_one, residue_zero, one_smul, zero_smul, add_zero]
  exact verify_any_key_iff accepted zeroR

end Signature

/-- What else is accepted beside an accepted signature: hashes with the same scalar, no other key
unless `r` is zero, and of all signatures with the point or its opposite the mirrored one only. -/
theorem accepted_signature_binds {signature : Signature} {publicKey : Point} {hash : List Byte}
    (accepted : signature.verify publicKey hash = true) :
    (∀ other, signature.verify publicKey other = true ↔
      scalarOfHash other = scalarOfHash hash) ∧
    (signature.r.xScalar ≠ 0 → ∀ other, signature.verify other hash = true ↔ other = publicKey) ∧
    (signature.r.xScalar = 0 → ∀ other,
      signature.verify other hash = true ↔ other ≠ .identity) ∧
    signature.mirrored ≠ signature ∧
    (∀ candidate : Signature, candidate.r = signature.r ∨ candidate.r = -signature.r →
      (candidate.verify publicKey hash = true ↔
        candidate = signature ∨ candidate = signature.mirrored)) := by
  have notIdentity : signature.r ≠ .identity := ((Signature.verify_iff _ _ _).mp accepted).2.1
  have opposite : -signature.r ≠ signature.r := Point.negate_ne notIdentity
  refine ⟨Signature.verify_hash_iff accepted, Signature.verify_key_iff accepted,
    Signature.verify_any_key_iff accepted, fun same => opposite (congrArg Signature.r same), ?_⟩
  intro candidate point
  rcases point with samePoint | oppositePoint
  · have notMirrored : candidate ≠ signature.mirrored := fun same =>
      opposite ((congrArg Signature.r same).symm.trans samePoint)
    rw [Signature.verify_same_point_iff accepted samePoint, or_iff_left notMirrored]
  · have notSame : candidate ≠ signature := fun same =>
      opposite (oppositePoint.symm.trans (congrArg Signature.r same))
    rw [Signature.verify_opposite_point_iff accepted oppositePoint, or_iff_right notSame]

/-- The secret three and the nonce one. The longer hash has the same 32 leading bytes as the short
one has with zeros in front. -/
theorem accepted_signature_binds_at_three :
    let secret : Scalar := 3
    let publicKey := secret • Point.generator
    let hash : List Byte := [1]
    let signature : Signature :=
      ⟨Point.generator, scalarOfHash hash + Point.generator.xScalar * secret⟩
    signature.verify publicKey hash = true ∧
      signature.verify publicKey (List.replicate 31 0 ++ [1, 7]) = true ∧
      ¬signature.verify publicKey [2] = true ∧
      ¬signature.verify Point.generator hash = true ∧
      signature.mirrored.verify publicKey hash = true ∧
      ¬Signature.verify ⟨signature.r, -signature.s⟩ publicKey hash = true := by
  intro secret publicKey hash signature
  have accepted : signature.verify publicKey hash = true := by decide +kernel
  obtain ⟨hashes, keys, _, _, candidates⟩ := accepted_signature_binds accepted
  have nonzeroR : signature.r.xScalar ≠ 0 := by decide +kernel
  refine ⟨accepted, (hashes _).mpr (by decide +kernel), mt (hashes _).mp (by decide +kernel),
    mt (keys nonzeroR _).mp (by decide +kernel), ?_, ?_⟩
  · exact (candidates signature.mirrored (Or.inr rfl)).mpr (Or.inr rfl)
  · exact mt (candidates ⟨signature.r, -signature.s⟩ (Or.inl rfl)).mp (by decide +kernel)

end ObliviousTransfer
