import ObliviousTransfer.Proofs.Ecdsa.Recovery

/-!
Signatures as pairs of numbers. The check of a pair has no point to compare with,
but only a coordinate modulo the order; still it accepts just the pairs that some
point makes an accepted signature, and no second point does. A compact form
begins with such a pair if the coordinate of its point is below the order. The
few coordinates between the order and the prime are written as they are, while
the check has reduced them.
-/

namespace ObliviousTransfer

open ObliviousTransfer.Modular

def pairCandidate (publicKey : Point) (hash : List Byte) (r s : Scalar) : Point :=
  inverse s • (scalarOfHash hash • Point.generator + r • publicKey)

structure PairAccepted (publicKey : Point) (hash : List Byte) (r s : Scalar) : Prop where
  r_nonzero : r ≠ 0
  s_nonzero : s ≠ 0
  candidate_not_identity : pairCandidate publicKey hash r s ≠ .identity
  coordinate : (pairCandidate publicKey hash r s).xCoordinate.val % groupOrder = r.val

namespace Signature

/-- The check of a signature finds the candidate of its pair and compares it with the point. -/
theorem verify_iff_candidate {signature : Signature} {publicKey : Point} {hash : List Byte} :
    signature.verify publicKey hash = true ↔
      signature.s ≠ 0 ∧ signature.r ≠ .identity ∧ publicKey ≠ .identity ∧
        pairCandidate publicKey hash signature.r.xScalar signature.s = signature.r := by
  rw [verify_iff, pairCandidate]
  constructor
  · rintro ⟨nonzero, point, key, equation⟩
    exact ⟨nonzero, point, key, (Point.inverse_smul_eq_iff nonzero).mpr equation.symm⟩
  · rintro ⟨nonzero, point, key, candidate⟩
    exact ⟨nonzero, point, key, ((Point.inverse_smul_eq_iff nonzero).mp candidate).symm⟩

theorem candidate_of_verify {signature : Signature} {publicKey : Point} {hash : List Byte}
    (accepted : signature.verify publicKey hash = true) :
    pairCandidate publicKey hash signature.r.xScalar signature.s = signature.r :=
  (verify_iff_candidate.mp accepted).2.2.2

theorem pair_of_verify {signature : Signature} {publicKey : Point} {hash : List Byte}
    (accepted : signature.verify publicKey hash = true) (nonzeroR : signature.r.xScalar ≠ 0) :
    PairAccepted publicKey hash signature.r.xScalar signature.s := by
  obtain ⟨nonzero, point, -, candidate⟩ := verify_iff_candidate.mp accepted
  refine ⟨nonzeroR, nonzero, ?_, ?_⟩
  · rwa [candidate]
  · rw [candidate]
    rfl

theorem verify_of_pair {publicKey : Point} {hash : List Byte} {r s : Scalar}
    (notIdentity : publicKey ≠ .identity) (accepted : PairAccepted publicKey hash r s) :
    let candidate := pairCandidate publicKey hash r s
    candidate.xScalar = r ∧ Signature.verify ⟨candidate, s⟩ publicKey hash = true := by
  intro candidate
  have sameR : candidate.xScalar = r := Point.x_scalar_eq_iff.mpr accepted.coordinate
  refine ⟨sameR, verify_iff_candidate.mpr ⟨accepted.s_nonzero, accepted.candidate_not_identity,
    notIdentity, ?_⟩⟩
  dsimp only
  rw [sameR]

end Signature

/-- A pair is accepted just if it is that of an accepted signature. Up to four points share the `r`,
but only the candidate makes such a signature with the `s`. -/
theorem pair_accepted_iff {publicKey : Point} (notIdentity : publicKey ≠ .identity)
    (hash : List Byte) {r : Scalar} (nonzeroR : r ≠ 0) (s : Scalar) :
    let verifies (point : Point) := Signature.verify ⟨point, s⟩ publicKey hash = true
    (PairAccepted publicKey hash r s ↔ ∃ point, point.xScalar = r ∧ verifies point) ∧
      ∀ point, point.xScalar = r → verifies point → point = pairCandidate publicKey hash r s := by
  intro verifies
  refine ⟨⟨?_, ?_⟩, ?_⟩
  · intro accepted
    exact ⟨_, Signature.verify_of_pair notIdentity accepted⟩
  · rintro ⟨point, rfl, verified⟩
    exact Signature.pair_of_verify verified nonzeroR
  · rintro point rfl verified
    exact (Signature.candidate_of_verify verified).symm

/-- The secret three and the nonce one: the pair is accepted, and the generator is its point. With
the `s` zero it is not. -/
theorem pair_accepted_iff_at_three :
    let secret : Scalar := 3
    let publicKey := secret • Point.generator
    let hash : List Byte := [1]
    let r := Point.generator.xScalar
    let s := scalarOfHash hash + r * secret
    publicKey ≠ .identity ∧ r ≠ 0 ∧ PairAccepted publicKey hash r s ∧
      pairCandidate publicKey hash r s = Point.generator ∧
      ¬∃ point : Point, point.xScalar = r ∧ Signature.verify ⟨point, 0⟩ publicKey hash = true := by
  intro secret publicKey hash r s
  have notIdentity : publicKey ≠ .identity :=
    mt Point.generator_smul_eq_identity_iff.mp (by decide)
  have nonzeroR : r ≠ 0 := by decide
  have verified : Signature.verify ⟨Point.generator, s⟩ publicKey hash = true := by decide +kernel
  obtain ⟨accepted, unique⟩ := pair_accepted_iff notIdentity hash nonzeroR s
  refine ⟨notIdentity, nonzeroR, accepted.mpr ⟨_, rfl, verified⟩, (unique _ rfl verified).symm, ?_⟩
  rw [← (pair_accepted_iff notIdentity hash nonzeroR 0).1]
  exact fun zero => zero.s_nonzero rfl

theorem Point.x_coordinate_ne_zero {point : Point} (notIdentity : point ≠ .identity) :
    point.xCoordinate ≠ 0 := by
  cases point with
  | identity => exact absurd rfl notIdentity
  | affine x y onCurve => exact on_curve_x_ne_zero onCurve

theorem reduce_scalar_val (scalar : Scalar) : Scalar.reduce scalar.val = scalar :=
  Fin.ext (Nat.mod_eq_of_lt scalar.isLt)

theorem scalar_val_pos {scalar : Scalar} (nonzero : scalar ≠ 0) : 1 ≤ scalar.val :=
  Nat.one_le_iff_ne_zero.mpr fun zero => nonzero (Fin.ext zero)

/-- Reduction changes a coordinate just if it is not below the order. -/
theorem Point.x_scalar_val_eq_iff (point : Point) :
    point.xCoordinate.val = point.xScalar.val ↔ point.xCoordinate.val < groupOrder := by
  constructor
  · intro same
    rw [same]
    exact point.xScalar.isLt
  · intro below
    exact (Nat.mod_eq_of_lt below).symm

namespace Signature

theorem low_s_ne_zero {signature : Signature} (nonzero : signature.s ≠ 0) :
    signature.lowS ≠ 0 := by
  rcases signature.low_s_cases with same | negated
  · rwa [same]
  · rwa [negated, neg_ne_zero]

theorem low_pair_of_verify {signature : Signature} {publicKey : Point} {hash : List Byte}
    (accepted : signature.verify publicKey hash = true) (nonzeroR : signature.r.xScalar ≠ 0) :
    PairAccepted publicKey hash signature.r.xScalar signature.lowS := by
  rw [← signature.lowered_x_scalar] at nonzeroR
  rw [← signature.lowered_x_scalar, ← signature.lowered_s]
  exact pair_of_verify ((signature.verify_lowered_iff _ _).mpr accepted) nonzeroR

end Signature

structure PairInRange (r s : Nat) : Prop where
  r_pos : 1 ≤ r
  r_lt : r < groupOrder
  s_pos : 1 ≤ s
  s_lt : s < groupOrder

/-- The coordinate of the point is written in full. So the two numbers of the compact form are a
pair, the first of them the `r` of the check, just if the coordinate is below the order; and then the
pair is accepted where the signature is. -/
theorem compact_pair_in_range_iff {signature : Signature} {publicKey : Point} {hash : List Byte}
    (accepted : signature.verify publicKey hash = true) :
    let r := bigEndianValue (signature.compact.bytes.take 32)
    let s := bigEndianValue ((signature.compact.bytes.drop 32).take 32)
    r = signature.r.xCoordinate.val ∧ 1 ≤ s ∧ s < groupOrder ∧
      (PairInRange r s ↔ r < groupOrder) ∧ (r = signature.r.xScalar.val ↔ r < groupOrder) ∧
      (r < groupOrder → PairAccepted publicKey hash (Scalar.reduce r) (Scalar.reduce s)) := by
  intro r s
  obtain ⟨nonzeroS, notIdentity, -⟩ := Signature.verify_iff_candidate.mp accepted
  have coordinate : r = signature.r.xCoordinate.val := signature.compact_coordinate
  have scalar : s = signature.lowS.val := signature.compact_scalar_value
  have rPos : 1 ≤ signature.r.xCoordinate.val :=
    Nat.one_le_iff_ne_zero.mpr fun zero => Point.x_coordinate_ne_zero notIdentity (Fin.ext zero)
  have sPos : 1 ≤ signature.lowS.val := scalar_val_pos (Signature.low_s_ne_zero nonzeroS)
  have sLt : signature.lowS.val < groupOrder := signature.lowS.isLt
  rw [coordinate, scalar]
  refine ⟨rfl, sPos, sLt, ⟨PairInRange.r_lt, fun rLt => ⟨rPos, rLt, sPos, sLt⟩⟩,
    signature.r.x_scalar_val_eq_iff, ?_⟩
  intro below
  have nonzeroR : signature.r.xScalar ≠ 0 := by
    intro zero
    have same := signature.r.x_scalar_val_eq_iff.mpr below
    rw [zero] at same
    exact Nat.ne_of_gt rPos same
  rw [reduce_scalar_val]
  exact Signature.low_pair_of_verify accepted nonzeroR

/-- The secret three and the nonce one. -/
theorem compact_pair_in_range_at_three :
    let secret : Scalar := 3
    let publicKey := secret • Point.generator
    let hash : List Byte := [1]
    let signature : Signature :=
      ⟨Point.generator, scalarOfHash hash + Point.generator.xScalar * secret⟩
    let r := bigEndianValue (signature.compact.bytes.take 32)
    let s := bigEndianValue ((signature.compact.bytes.drop 32).take 32)
    signature.verify publicKey hash = true ∧ PairInRange r s ∧ r = signature.r.xScalar.val ∧
      PairAccepted publicKey hash (Scalar.reduce r) (Scalar.reduce s) := by
  intro secret publicKey hash signature r s
  have accepted : signature.verify publicKey hash = true := by decide +kernel
  obtain ⟨coordinate, -, -, inRange, sameR, pair⟩ := compact_pair_in_range_iff accepted
  have below : r < groupOrder := lt_of_eq_of_lt coordinate (by decide)
  exact ⟨accepted, inRange.mpr below, sameR.mpr below, pair below⟩

/-- Two above the order there is a coordinate of a point. With the `s` one that point is an accepted
signature, the compact form of which begins with no pair and not with the `r` of the check. -/
theorem compact_pair_out_of_range :
    let point : Point := .affine ⟨groupOrder + 2, by decide⟩
      0xc94e559d14883e68cfda34341568bf1127153254788dd974c6af9bb9cd962a5c (by decide)
    let publicKey : Point :=
      .affine 0x8a0dee06163f357e0e71688f3785eb53891144624c633ed43706b6268bb4316f
        0xe440d41220c85c709a6ceb8bb5faf8963408733e2451994f9bab1da5e0bfbff0 (by decide)
    let hash : List Byte := List.replicate 31 0 ++ [1]
    let signature : Signature := ⟨point, 1⟩
    let r := bigEndianValue (signature.compact.bytes.take 32)
    let s := bigEndianValue ((signature.compact.bytes.drop 32).take 32)
    publicKey ≠ .identity ∧ signature.verify publicKey hash = true ∧ ¬PairInRange r s ∧
      r = groupOrder + 2 ∧ signature.r.xScalar.val = 2 := by
  intro point publicKey hash signature r s
  have coordinate : r = groupOrder + 2 := signature.compact_coordinate
  refine ⟨Point.noConfusion, by decide +kernel, ?_, coordinate, by decide⟩
  intro inRange
  have below : groupOrder + 2 < groupOrder := coordinate ▸ inRange.r_lt
  exact absurd below (by decide)

end ObliviousTransfer
