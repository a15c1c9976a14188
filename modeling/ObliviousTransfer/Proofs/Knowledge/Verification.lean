import ObliviousTransfer.Proofs.Curve.Encoding
import ObliviousTransfer.Protocol.Knowledge

/-!
Checking proofs of knowledge. A proof that cannot be read is refused and leaves
the transcript alone; any other is judged by one equation and moves the
transcript on as its prover did. A proof made with a nonzero nonce is accepted.
-/

namespace ObliviousTransfer

namespace KeyProof

def Readable (proof : KeyProof) : Prop :=
  (∃ commitment, decodePoint proof.commitment.bytes = .ok commitment) ∧
    ∃ response, decodeScalar proof.response.bytes = .ok response

/-- The verifier's two sides are the same, whatever the challenge is. -/
theorem response_fits (k c secret : Scalar) :
    (k + c * secret) • Point.generator =
      k • Point.generator + c • (secret • Point.generator) := by
  simp only [Point.scalar_smul_eq, Modular.residue_add, Modular.residue_mul]
  module

section Verify

variable {proof : KeyProof} (transcript : Transcript) (publicKey : Point) (context : List Byte)

theorem verify_of_readable {commitment : Point} {response : Scalar}
    (point : decodePoint proof.commitment.bytes = .ok commitment)
    (scalar : decodeScalar proof.response.bytes = .ok response) :
    let drawn := challenge transcript publicKey proof.commitment context
    proof.verify transcript publicKey context =
      (decide (response • Point.generator = commitment + drawn.1 • publicKey), drawn.2) := by
  rw [verify, point, scalar]

theorem verify_of_unreadable (unreadable : ¬proof.Readable) :
    proof.verify transcript publicKey context = (false, transcript) := by
  unfold verify
  split
  · rename_i commitment response point scalar
    exact absurd ⟨⟨commitment, point⟩, response, scalar⟩ unreadable
  · rfl

theorem verify_transcript (readable : proof.Readable) :
    (proof.verify transcript publicKey context).2 =
      (challenge transcript publicKey proof.commitment context).2 := by
  obtain ⟨⟨commitment, point⟩, response, scalar⟩ := readable
  rw [verify_of_readable transcript publicKey context point scalar]

variable (proof) in
theorem verify_fst_iff :
    (proof.verify transcript publicKey context).1 = true ↔
      ∃ commitment response, decodePoint proof.commitment.bytes = .ok commitment ∧
        decodeScalar proof.response.bytes = .ok response ∧
        response • Point.generator =
          commitment + (challenge transcript publicKey proof.commitment context).1 • publicKey := by
  constructor
  · intro accepted
    by_cases readable : proof.Readable
    · obtain ⟨⟨commitment, point⟩, response, scalar⟩ := readable
      rw [verify_of_readable transcript publicKey context point scalar] at accepted
      exact ⟨commitment, response, point, scalar, of_decide_eq_true accepted⟩
    · rw [verify_of_unreadable transcript publicKey context readable] at accepted
      cases accepted
  · rintro ⟨commitment, response, point, scalar, equation⟩
    rw [verify_of_readable transcript publicKey context point scalar]
    exact decide_eq_true equation

end Verify

section Prove

variable (transcript : Transcript) (context : List Byte)

theorem commitment_eq (k : Scalar) (publicKey : Point) (secret : Scalar) :
    (proveWith k transcript publicKey secret context).1.commitment =
      encodePoint (k • Point.generator) := rfl

/-- Both parties feed the transcript the same bytes, so they draw the same challenge. -/
theorem verify_prove {k : Scalar} (nonzero : k ≠ 0) (secret : Scalar) :
    let publicKey := secret • Point.generator
    let proved := proveWith k transcript publicKey secret context
    proved.1.verify transcript publicKey context = (true, proved.2) := by
  intro publicKey proved
  have point : decodePoint proved.1.commitment.bytes = .ok (k • Point.generator) :=
    decode_point_encode (mt Point.generator_smul_eq_identity_iff.mp nonzero)
  have scalar : decodeScalar proved.1.response.bytes = .ok _ := decode_scalar_encode _
  rw [verify_of_readable transcript publicKey context point scalar]
  simp only [response_fits]
  exact Prod.ext (decide_eq_true rfl) rfl

theorem unreadable_of_zero (publicKey : Point) (secret : Scalar) :
    ¬(proveWith 0 transcript publicKey secret context).1.Readable := by
  rintro ⟨⟨commitment, point⟩, _⟩
  rw [commitment_eq, Point.generator_smul_eq_identity_iff.mpr rfl, decode_point_identity] at point
  cases point

theorem verify_prove_fst (k secret : Scalar) :
    let publicKey := secret • Point.generator
    ((proveWith k transcript publicKey secret context).1.verify transcript publicKey context).1 =
      decide (k ≠ 0) := by
  intro publicKey
  by_cases zero : k = 0
  · rw [zero, verify_of_unreadable _ _ _ (unreadable_of_zero transcript context publicKey secret)]
    rfl
  · rw [verify_prove transcript context zero, decide_eq_true zero]

end Prove

end KeyProof

end ObliviousTransfer
