import ObliviousTransfer.Proofs.Session.Exchange

/-!
The states that a session under a key goes through, and what each round does in
its phase. Later proofs cite these statements and leave the sessions closed.
-/

namespace ObliviousTransfer

theorem keyed_oracle (key : Octets nonceBytes) : Oracle.keyed key.bytes = .ok ⟨key, []⟩ := by
  rw [Oracle.keyed, Octets.of_list_bytes]

theorem keyed_oracle_refused {nonce : List Byte} (wrong : nonce.length ≠ nonceBytes) :
    Oracle.keyed nonce = .error (.nonceLength nonce.length) := by
  rw [Oracle.keyed, Octets.of_list_eq_none_iff.mpr wrong]

namespace Sender

def under (key : Octets nonceBytes) (setup : SenderSetup) (state : SenderState) : Sender :=
  ⟨setup, ⟨key, []⟩, state⟩

variable (key : Octets nonceBytes) (setup : SenderSetup)

theorem start_eq : start key.bytes setup = .ok (under key setup .awaitingRound1) := by
  rw [start, keyed_oracle]
  rfl

theorem round2_eq (commitments : Commitments) (message : ResponseMessage) :
    (under key setup (.awaitingRound2 commitments)).round2 message =
      if message.response = commitments.expected then
        ⟨under key setup .done, .ok (commitments.opening, commitments.pads),
          [⟨[.round2], .roundCompleted .sender2⟩]⟩
      else ⟨under key setup .done, .error .invalidResponse, [⟨[.round2], .responseRefused⟩]⟩ := rfl

theorem round2_session (commitments : Commitments) (message : ResponseMessage) :
    ((under key setup (.awaitingRound2 commitments)).round2 message).session =
      under key setup .done := by
  rw [round2_eq]
  split <;> rfl

theorem round2_result (commitments : Commitments) (message : ResponseMessage) :
    ((under key setup (.awaitingRound2 commitments)).round2 message).result =
      if message.response = commitments.expected then .ok (commitments.opening, commitments.pads)
      else .error .invalidResponse := by
  rw [round2_eq]
  split <;> rfl

variable [KeyedHash]

theorem round1_of_decoded {message : PointMessage} {point : Point}
    (decoded : decodePoint message.point.bytes = .ok point) :
    (under key setup .awaitingRound1).round1 message =
      let commitments := Commitments.ofPoint (KeyedHash.hash key) setup point
      ⟨under key setup (.awaitingRound2 commitments), .ok ⟨commitments.challenge⟩,
        [⟨[.round1], .roundCompleted .sender1⟩]⟩ := by
  simp only [round1, under, decoded]
  rfl

theorem round1_of_refused {message : PointMessage} {fault : EncodingFault}
    (refused : decodePoint message.point.bytes = .error fault) :
    (under key setup .awaitingRound1).round1 message =
      ⟨under key setup .done, .error (.encoding fault), []⟩ := by
  simp only [round1, under, refused]
  rfl

theorem round1_of_point {point : Point} (notIdentity : point ≠ .identity) :
    (under key setup .awaitingRound1).round1 ⟨encodePoint point⟩ =
      let commitments := Commitments.ofPoint (KeyedHash.hash key) setup point
      ⟨under key setup (.awaitingRound2 commitments), .ok ⟨commitments.challenge⟩,
        [⟨[.round1], .roundCompleted .sender1⟩]⟩ :=
  round1_of_decoded key setup (decode_point_encode notIdentity)

theorem round1_of_identity {point : Point} (identity : point = .identity) :
    (under key setup .awaitingRound1).round1 ⟨encodePoint point⟩ =
      ⟨under key setup .done, .error (.encoding .pointForm), []⟩ := by
  rw [identity]
  exact round1_of_refused key setup decode_point_identity

end Sender

namespace Receiver

def under (key : Octets nonceBytes) (setup : ReceiverSetup) (choice : Bool)
    (state : ReceiverState) : Receiver :=
  ⟨setup.publicKey, ⟨key, []⟩, choice, state⟩

variable (key : Octets nonceBytes) (setup : ReceiverSetup) (choice : Bool)

theorem start_eq : start key.bytes setup choice = .ok (under key setup choice .awaitingRound1) := by
  rw [start, keyed_oracle]
  rfl

theorem sent_point_eq (publicKey : Point) (choice : Bool) (a : Scalar) :
    sentPoint publicKey choice a = a • Point.generator + if choice then publicKey else 0 := by
  cases choice with
  | false => exact (add_zero _).symm
  | true => rfl

variable [KeyedHash]

theorem round1_eq (tape : Tape) :
    (under key setup choice .awaitingRound1).round1 tape =
      let a := tape.scalar.1
      let pad := KeyedHash.hash key (encodePoint (a • setup.publicKey)).bytes
      (⟨under key setup choice (.awaitingRound2 pad),
        .ok ⟨encodePoint (a • Point.generator + if choice then setup.publicKey else 0)⟩,
        [⟨[.round1], .roundCompleted .receiver1⟩]⟩, tape.scalar.2) := by
  have sent := sent_point_eq setup.publicKey choice tape.scalar.1
  simp only [← sent]
  rfl

theorem round2_eq (pad : Pad) (message : ChallengeMessage) :
    (under key setup choice (.awaitingRound2 pad)).round2 message =
      let hash := KeyedHash.hash key
      ⟨under key setup choice (.awaitingRound3 pad message.challenge (hashTwice hash pad)),
        .ok ⟨responseTo hash choice pad message.challenge⟩,
        [⟨[.round2], .roundCompleted .receiver2⟩]⟩ := rfl

theorem round3_eq (pad challenge hashed : Pad) (message : OpeningMessage) :
    (under key setup choice (.awaitingRound3 pad challenge hashed)).round3 message =
      if opens (KeyedHash.hash key) choice challenge hashed message then
        ⟨under key setup choice .done, .ok pad, [⟨[.round3], .roundCompleted .receiver3⟩]⟩
      else ⟨under key setup choice .done, .error .decommitmentMismatch,
        [⟨[.round3], .openingRefused⟩]⟩ := rfl

theorem round3_result (pad challenge hashed : Pad) (message : OpeningMessage) :
    ((under key setup choice (.awaitingRound3 pad challenge hashed)).round3 message).result =
      if opens (KeyedHash.hash key) choice challenge hashed message then .ok pad
      else .error .decommitmentMismatch := by
  rw [round3_eq]
  split <;> rfl

end Receiver
end ObliviousTransfer
