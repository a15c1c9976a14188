import ObliviousTransfer.Proofs.Knowledge.Verification
import ObliviousTransfer.Proofs.Message.Wire
import ObliviousTransfer.Protocol.Setup

/-!
The receiver accepts the setup message of a sender that follows the protocol,
except when one of its two scalars is zero: the public key or the commitment is
then the identity, whose encoding is refused.
-/

namespace ObliviousTransfer

namespace Setup

theorem create_eq (context : List Byte) (tape : Tape) :
    let b := tape.scalar.1
    let k := tape.scalar.2.scalar.1
    let created := createWith b k context
    create context tape = ⟨.ok created, tape.scalar.2.scalar.2,
      [⟨[.setupSend], .setupCreated created.1.publicKey⟩]⟩ := rfl

theorem accept_of_refused {context : List Byte} {message : SetupMessage} {fault : EncodingFault}
    (refused : decodePoint message.publicKey.bytes = .error fault) :
    (accept context message).value = .error .proofInvalid := by
  rw [accept, refused]

theorem accept_of_decoded {context : List Byte} {message : SetupMessage} {publicKey : Point}
    (decoded : decodePoint message.publicKey.bytes = .ok publicKey) :
    (accept context message).value =
      if (message.proof.verify transcript publicKey context).1 then .ok ⟨publicKey⟩
      else .error .proofInvalid := by
  simp only [accept, decoded]
  split_ifs <;> rfl

theorem accept_created (b k : Scalar) (context : List Byte) :
    let message := (createWith b k context).1
    (accept context message).value =
      if b ≠ 0 ∧ k ≠ 0 then .ok ⟨b • Point.generator⟩ else .error .proofInvalid := by
  intro message
  have published : message.publicKey = encodePoint (b • Point.generator) := rfl
  by_cases zero : b = 0
  · have refused : decodePoint message.publicKey.bytes = .error .pointForm := by
      rw [published, Point.generator_smul_eq_identity_iff.mpr zero, decode_point_identity]
    rw [accept_of_refused refused, if_neg fun both => both.1 zero]
  · have decoded : decodePoint message.publicKey.bytes = .ok (b • Point.generator) :=
      decode_point_encode (mt Point.generator_smul_eq_identity_iff.mp zero)
    have verified : (message.proof.verify transcript (b • Point.generator) context).1 =
        decide (k ≠ 0) := KeyProof.verify_prove_fst transcript context k b
    rw [accept_of_decoded decoded, verified]
    simp only [decide_eq_true_iff, ne_eq, zero, not_false_eq_true, true_and]

end Setup

/-- A setup message is accepted just if both scalars of its sender are nonzero, in whatever form
it is sent. -/
theorem setup_complete (context : List Byte) (tape : Tape) :
    let b := tape.scalar.1
    let k := tape.scalar.2.scalar.1
    let verdict : Except Failure ReceiverSetup :=
      if b ≠ 0 ∧ k ≠ 0 then .ok ⟨b • Point.generator⟩ else .error .proofInvalid
    ∃ message setup, (Setup.create context tape).result = .ok (message, setup) ∧
      (Setup.create context tape).tape = tape.scalar.2.scalar.2 ∧ setup.secret = b ∧
      setup.publicKey = b • Point.generator ∧ setup.secretKey = b • (b • Point.generator) ∧
      (Setup.accept context message).value = verdict ∧
      ∀ carriage, ∃ received, SetupMessage.wire.carry carriage message = .ok received ∧
        (Setup.accept context received).value = verdict := by
  intro b k verdict
  have accepted : (Setup.accept context (Setup.createWith b k context).1).value = verdict :=
    Setup.accept_created b k context
  have created := Setup.create_eq context tape
  refine ⟨_, _, congrArg Outcome.result created, congrArg Outcome.tape created, rfl, rfl, rfl,
    accepted, ?_⟩
  intro carriage
  exact ⟨_, Wire.carry_eq SetupMessage.wire_lossless carriage _, accepted⟩

end ObliviousTransfer
