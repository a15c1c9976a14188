import ObliviousTransfer.Proofs.Curve.Spelling
import ObliviousTransfer.Proofs.Knowledge.Verification

/-!
What an accepted proof says about the secret. The check is one equation, linear
in the challenge and in the response, so it holds for a prover without the
secret only if the challenge is zero. A challenge has one response, and the
responses to two challenges with the same commitment give the secret away.
-/

namespace ObliviousTransfer

open ObliviousTransfer.Modular

namespace Point

theorem smul_identity (scalar : Scalar) : scalar • (.identity : Point) = .identity := rfl

theorem smul_eq_identity_iff {scalar : Scalar} {point : Point} :
    scalar • point = .identity ↔ scalar = 0 ∨ point = .identity := by
  have identity : (.identity : Point) = 0 := rfl
  rw [identity, scalar_smul_eq, smul_eq_zero, residue_eq_zero_iff]

theorem eq_generator_smul_of_smul {response c : Scalar} {publicKey : Point} (nonzero : c ≠ 0)
    (multiple : response • generator = c • publicKey) :
    publicKey = (response * inverse c) • generator := by
  have residueNonzero : residue c ≠ 0 := mt residue_eq_zero_iff.mp nonzero
  rw [scalar_smul_eq, scalar_smul_eq] at multiple
  rw [scalar_smul_eq, residue_mul, scalar_inverse, mul_comm, mul_smul, multiple,
    inv_smul_smul₀ residueNonzero]

end Point

namespace KeyProof

/-- The proof answers a challenge, wherever the challenge comes from. -/
def Answers (proof : KeyProof) (c : Scalar) (publicKey : Point) : Prop :=
  ∃ commitment response, decodePoint proof.commitment.bytes = .ok commitment ∧
    decodeScalar proof.response.bytes = .ok response ∧
    response • Point.generator = commitment + c • publicKey

theorem verify_iff_answers (proof : KeyProof) (transcript : Transcript) (publicKey : Point)
    (context : List Byte) :
    (proof.verify transcript publicKey context).1 = true ↔
      proof.Answers (challenge transcript publicKey proof.commitment context).1 publicKey :=
  verify_fst_iff proof transcript publicKey context

/-- A way to draw challenges from a key, the bytes of a commitment and a context. -/
abbrev Challenger := Point → Octets pointBytes → List Byte → Scalar

def proveBy (draw : Challenger) (k : Scalar) (publicKey : Point) (secret : Scalar)
    (context : List Byte) : KeyProof :=
  let commitment := encodePoint (k • Point.generator)
  ⟨commitment, encodeScalar (k + draw publicKey commitment context * secret)⟩

def challenger (transcript : Transcript) : Challenger := fun publicKey commitment context =>
  (challenge transcript publicKey commitment context).1

theorem prove_eq_prove_by (transcript : Transcript) (publicKey : Point) (secret : Scalar)
    (context : List Byte) (tape : Tape) :
    (prove transcript publicKey secret context tape).1.1 =
      proveBy (challenger transcript) tape.scalar.1 publicKey secret context := rfl

/-- Without the secret the two sides of the check differ by a multiple of the challenge. -/
theorem response_fits_iff (k c secret : Scalar) (publicKey : Point) :
    (k + c * secret) • Point.generator = k • Point.generator + c • publicKey ↔
      publicKey = secret • Point.generator ∨ c = 0 := by
  rw [response_fits, add_right_inj]
  by_cases zero : c = 0
  · have absent (point : Point) : c • point = 0 := by
      rw [zero, Point.scalar_smul_eq, residue_zero, zero_smul]
    rw [absent, absent]
    exact iff_of_true rfl (Or.inr zero)
  · rw [Point.scalar_smul_inj zero, or_iff_left zero]
    exact eq_comm

/-- A nonce that is zero leaves a commitment that cannot be read. -/
theorem prove_by_answers_iff (draw : Challenger) (k : Scalar) (publicKey : Point)
    (secret : Scalar) (context : List Byte) :
    let proof := proveBy draw k publicKey secret context
    let c := draw publicKey proof.commitment context
    proof.Answers c publicKey ↔
      k ≠ 0 ∧ (publicKey = secret • Point.generator ∨ c = 0) := by
  intro proof c
  have scalar : decodeScalar proof.response.bytes = .ok (k + c * secret) := decode_scalar_encode _
  by_cases zero : k = 0
  · have unread : decodePoint proof.commitment.bytes = .error .pointForm := by
      change decodePoint (encodePoint (k • Point.generator)).bytes = _
      rw [Point.generator_smul_eq_identity_iff.mpr zero, decode_point_identity]
    constructor
    · rintro ⟨commitment, response, point, _⟩
      cases unread.symm.trans point
    · intro both
      exact absurd zero both.1
  · have point : decodePoint proof.commitment.bytes = .ok (k • Point.generator) :=
      decode_point_encode (mt Point.generator_smul_eq_identity_iff.mp zero)
    rw [← response_fits_iff k c secret publicKey, and_iff_right zero]
    constructor
    · rintro ⟨commitment, response, otherPoint, otherScalar, equation⟩
      cases point.symm.trans otherPoint
      cases scalar.symm.trans otherScalar
      exact equation
    · intro equation
      exact ⟨_, _, point, scalar, equation⟩

section Fork

variable {first second : KeyProof} {publicKey : Point} {c₁ c₂ : Scalar}
  (sameCommitment : first.commitment = second.commitment)
  (answers₁ : first.Answers c₁ publicKey) (answers₂ : second.Answers c₂ publicKey)
include sameCommitment answers₁ answers₂

theorem answers_difference :
    ∃ z₁ z₂, decodeScalar first.response.bytes = .ok z₁ ∧
      decodeScalar second.response.bytes = .ok z₂ ∧
      (z₁ - z₂) • Point.generator = (c₁ - c₂) • publicKey := by
  obtain ⟨commitment, z₁, point₁, scalar₁, equation₁⟩ := answers₁
  obtain ⟨other, z₂, point₂, scalar₂, equation₂⟩ := answers₂
  rw [← sameCommitment] at point₂
  cases point₁.symm.trans point₂
  refine ⟨z₁, z₂, scalar₁, scalar₂, ?_⟩
  simp only [Point.scalar_smul_eq, residue_sub, sub_smul] at equation₁ equation₂ ⊢
  rw [equation₁, equation₂, add_sub_add_left_eq_sub]

theorem answers_extract (different : c₁ ≠ c₂) :
    ∃ z₁ z₂, decodeScalar first.response.bytes = .ok z₁ ∧
      decodeScalar second.response.bytes = .ok z₂ ∧
      publicKey = ((z₁ - z₂) * inverse (c₁ - c₂)) • Point.generator := by
  obtain ⟨z₁, z₂, scalar₁, scalar₂, multiple⟩ :=
    answers_difference sameCommitment answers₁ answers₂
  exact ⟨z₁, z₂, scalar₁, scalar₂,
    Point.eq_generator_smul_of_smul (sub_ne_zero.mpr different) multiple⟩

/-- The bytes of the responses can be compared, since a scalar has one spelling. -/
theorem response_eq_iff_challenge :
    first.response = second.response ↔ c₁ = c₂ ∨ publicKey = .identity := by
  obtain ⟨z₁, z₂, scalar₁, scalar₂, multiple⟩ :=
    answers_difference sameCommitment answers₁ answers₂
  have sameScalar : first.response = second.response ↔ z₁ = z₂ := by
    constructor
    · intro same
      rw [same] at scalar₁
      exact Except.ok.inj (scalar₁.symm.trans scalar₂)
    · intro same
      apply Octets.ext
      rw [decode_scalar_ok_iff.mp scalar₁, decode_scalar_ok_iff.mp scalar₂, same]
  have difference : z₁ = z₂ ↔ (z₁ - z₂) • Point.generator = .identity := by
    rw [Point.generator_smul_eq_identity_iff, sub_eq_zero]
  rw [sameScalar, difference, multiple, Point.smul_eq_identity_iff, sub_eq_zero]

end Fork

theorem answers_other_iff {proof : KeyProof} {publicKey : Point} {c : Scalar}
    (answers : proof.Answers c publicKey) (other : Scalar) :
    proof.Answers other publicKey ↔ other = c ∨ publicKey = .identity := by
  constructor
  · intro otherAnswers
    exact (response_eq_iff_challenge rfl otherAnswers answers).mp rfl
  · obtain ⟨commitment, response, point, scalar, equation⟩ := answers
    intro same
    have multiples : other • publicKey = c • publicKey := by
      rcases same with sameChallenge | identity
      · rw [sameChallenge]
      · rw [identity, Point.smul_identity, Point.smul_identity]
    exact ⟨commitment, response, point, scalar, by rw [multiples, equation]⟩

end KeyProof

open KeyProof

/-- A proof is accepted just if its nonce is not zero and the key is that of the secret, or the
challenge is zero and takes the secret out. Any way to draw the challenge will do. -/
theorem proof_accepted_iff (publicKey : Point) (secret : Scalar) (context : List Byte)
    (tape : Tape) :
    let k := tape.scalar.1
    (∀ transcript,
      let proof := (prove transcript publicKey secret context tape).1.1
      let c := (challenge transcript publicKey proof.commitment context).1
      proof.commitment = encodePoint (k • Point.generator) ∧
        proof.response = encodeScalar (k + c * secret) ∧
        ((proof.verify transcript publicKey context).1 = true ↔
          k ≠ 0 ∧ (publicKey = secret • Point.generator ∨ c = 0))) ∧
    ∀ draw : Challenger,
      let proof := proveBy draw k publicKey secret context
      let c := draw publicKey proof.commitment context
      proof.Answers c publicKey ↔
        k ≠ 0 ∧ (publicKey = secret • Point.generator ∨ c = 0) := by
  intro k
  constructor
  · intro transcript proof c
    refine ⟨rfl, rfl, ?_⟩
    have built : proof = proveBy (challenger transcript) k publicKey secret context :=
      prove_eq_prove_by transcript publicKey secret context tape
    rw [verify_iff_answers, built]
    exact prove_by_answers_iff (challenger transcript) k publicKey secret context
  · intro draw
    exact prove_by_answers_iff draw k publicKey secret context

/-- Two accepted proofs with one commitment give the secret away, or have one challenge and so the
same response. An accepted proof has no other response, and it is accepted elsewhere just where
the challenge is the same, unless the key is the identity. -/
theorem accepted_proofs_sound {first second : KeyProof} {publicKey : Point}
    {transcript₁ transcript₂ : Transcript} {context₁ context₂ : List Byte}
    (sameCommitment : first.commitment = second.commitment)
    (accepted₁ : (first.verify transcript₁ publicKey context₁).1 = true)
    (accepted₂ : (second.verify transcript₂ publicKey context₂).1 = true) :
    let c₁ := (challenge transcript₁ publicKey first.commitment context₁).1
    let c₂ := (challenge transcript₂ publicKey second.commitment context₂).1
    (c₁ ≠ c₂ → ∃ z₁ z₂, decodeScalar first.response.bytes = .ok z₁ ∧
      decodeScalar second.response.bytes = .ok z₂ ∧ inverse (c₁ - c₂) * (c₁ - c₂) = 1 ∧
      publicKey = ((z₁ - z₂) * inverse (c₁ - c₂)) • Point.generator) ∧
    (c₁ = c₂ → first.response = second.response) ∧
    (first.response = second.response → c₁ = c₂ ∨ publicKey = .identity) ∧
    (∀ response, response ≠ first.response →
      (KeyProof.verify { first with response } transcript₁ publicKey context₁).1 = false) ∧
    ∀ transcript context, (first.verify transcript publicKey context).1 = true ↔
      (challenge transcript publicKey first.commitment context).1 = c₁ ∨
        publicKey = .identity := by
  intro c₁ c₂
  have answers₁ : first.Answers c₁ publicKey := (verify_iff_answers ..).mp accepted₁
  have answers₂ : second.Answers c₂ publicKey := (verify_iff_answers ..).mp accepted₂
  have responses := response_eq_iff_challenge sameCommitment answers₁ answers₂
  refine ⟨?_, ?_, responses.mp, ?_, ?_⟩
  · intro different
    obtain ⟨z₁, z₂, scalar₁, scalar₂, extracted⟩ :=
      answers_extract sameCommitment answers₁ answers₂ different
    exact ⟨z₁, z₂, scalar₁, scalar₂, scalar_inverse_mul (sub_ne_zero.mpr different), extracted⟩
  · intro same
    exact responses.mpr (Or.inl same)
  · intro response different
    rw [← Bool.not_eq_true, verify_iff_answers]
    intro answers
    have unchanged : ({ first with response } : KeyProof).commitment = first.commitment := rfl
    exact different ((response_eq_iff_challenge unchanged answers answers₁).mpr (Or.inl rfl))
  · intro transcript context
    rw [verify_iff_answers]
    exact answers_other_iff answers₁ _

/-- The secret three with the nonce one in both proofs, under different labels and contexts. -/
theorem accepted_proofs_sound_at_three :
    let secret : Scalar := 3
    let publicKey := secret • Point.generator
    let here := Transcript.new (utf8 "here")
    let there := Transcript.new (utf8 "there")
    let first := (proveWith 1 here publicKey secret [1]).1
    let second := (proveWith 1 there publicKey secret [2]).1
    first.commitment = second.commitment ∧ (first.verify here publicKey [1]).1 = true ∧
      (second.verify there publicKey [2]).1 = true ∧
      (first.response = second.response →
        (challenge here publicKey first.commitment [1]).1 =
          (challenge there publicKey second.commitment [2]).1) ∧
      ∀ response, response ≠ first.response →
        (KeyProof.verify { first with response } here publicKey [1]).1 = false := by
  intro secret publicKey here there first second
  have nonzero : (1 : Scalar) ≠ 0 := by decide
  have accepted₁ : (first.verify here publicKey [1]).1 = true :=
    (verify_prove_fst here [1] 1 secret).trans (decide_eq_true nonzero)
  have accepted₂ : (second.verify there publicKey [2]).1 = true :=
    (verify_prove_fst there [2] 1 secret).trans (decide_eq_true nonzero)
  have notIdentity : publicKey ≠ .identity :=
    mt Point.generator_smul_eq_identity_iff.mp (by decide)
  have sameCommitment : first.commitment = second.commitment :=
    (commitment_eq here [1] 1 publicKey secret).trans
      (commitment_eq there [2] 1 publicKey secret).symm
  obtain ⟨_, _, sameResponse, otherResponse, _⟩ :=
    accepted_proofs_sound sameCommitment accepted₁ accepted₂
  exact ⟨sameCommitment, accepted₁, accepted₂,
    fun same => (sameResponse same).resolve_right notIdentity, otherResponse⟩

end ObliviousTransfer
