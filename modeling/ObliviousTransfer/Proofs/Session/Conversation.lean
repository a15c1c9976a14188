import ObliviousTransfer.Proofs.Fallible
import ObliviousTransfer.Proofs.Session.Rounds

/-!
An execution as a conversation: the four messages and what both sides keep. The
five rounds are worked out one by one, and together they say what comes of an
execution under any setups.
-/

namespace ObliviousTransfer

namespace Action

variable {Value Next : Type}

theorem bind_result (action : Action Value) (next : Value → Action Next) (tape : Tape) :
    ((action >>= next) tape).result =
      (action tape).result.bind fun value => (next value (action tape).tape).result := by
  change (andThen action next tape).result = _
  unfold andThen
  cases first : (action tape).result <;> simp only [first] <;> rfl

end Action

/-- What goes over the wire in an execution, and what both sides keep. -/
structure Conversation where
  point : PointMessage
  challenge : ChallengeMessage
  response : ResponseMessage
  opening : OpeningMessage
  pads : PadPair
  received : Pad

def Exchange.conversation (hash : List Byte → Pad) (exchange : Exchange) : Conversation :=
  let commitments := exchange.commitments hash
  { point := ⟨encodePoint exchange.point⟩
    challenge := ⟨commitments.challenge⟩
    response := ⟨commitments.expected⟩
    opening := commitments.opening
    pads := exchange.pads
    received := exchange.received }

/-- The messages depend on the point and on the sender's pads alone. -/
theorem Exchange.conversation_eq (hash : List Byte → Pad) {first second : Exchange}
    (samePoint : first.point = second.point) (samePads : first.pads = second.pads) :
    first.conversation hash = { second.conversation hash with received := first.received } := by
  obtain ⟨point, pads, received⟩ := first
  cases samePoint
  cases samePads
  rfl

/-- The rounds of an execution, each with the message that the one before gave. -/
def converse [KeyedHash] (nonce : List Byte) (senderSetup : SenderSetup)
    (receiverSetup : ReceiverSetup) (choice : Bool) (tape : Tape) :
    Except Failure Conversation := do
  let sender ← Sender.start nonce senderSetup
  let receiver ← Receiver.start nonce receiverSetup choice
  let sent := (receiver.round1 tape).1
  let point ← sent.result
  let committed := sender.round1 point
  let challenge ← committed.result
  let answered := sent.session.round2 challenge
  let response ← answered.result
  let (opening, pads) ← (committed.session.round2 response).result
  let received ← (answered.session.round3 opening).result
  return ⟨point, challenge, response, opening, pads, received⟩

variable [KeyedHash]

theorem execute_result (nonce : List Byte) (senderSetup : SenderSetup)
    (receiverSetup : ReceiverSetup) (choice : Bool) (tape : Tape) :
    (execute nonce senderSetup receiverSetup choice tape).result =
      (converse nonce senderSetup receiverSetup choice tape).map
        fun conversation => (conversation.pads, conversation.received) := by
  simp only [execute, converse, Action.within, Action.bind_result, except_bind_eq, except_bind_map]
  simp only [Action.ofResult, Action.ofStep, Action.record, Receiver.send, except_map_bind]
  rfl

/-- Whatever the setups are, an execution ends in one of three ways. -/
theorem converse_eq (key : Octets nonceBytes) (senderSetup : SenderSetup)
    (receiverSetup : ReceiverSetup) (choice : Bool) (tape : Tape) :
    let hash := KeyedHash.hash key
    let values := exchange hash senderSetup receiverSetup.publicKey choice tape.scalar.1
    converse key.bytes senderSetup receiverSetup choice tape =
      if values.point = .identity then .error (.encoding .pointForm)
      else if values.Agrees hash choice then .ok (values.conversation hash)
      else .error .invalidResponse := by
  intro hash values
  have sent := Receiver.round1_eq key receiverSetup choice tape
  change _ = ((⟨_, .ok ⟨encodePoint values.point⟩, _⟩ : Step Receiver PointMessage), _) at sent
  rw [converse, Sender.start_eq, Receiver.start_eq]
  simp only [except_bind_eq, Except.bind, sent]
  by_cases identity : values.point = .identity
  · have refused := Sender.round1_of_identity key senderSetup identity
    simp only [refused, if_pos identity]
  · have committed := Sender.round1_of_point key senderSetup identity
    have accepted := values.response_expected_iff hash choice
    simp only [committed, if_neg identity, Receiver.round2_eq, Sender.round2_result]
    split_ifs with expected agrees agrees
    -- What the sender accepted makes the receiver accept, so its refusal is not a case.
    · have opened := values.opens_of_agrees hash choice agrees
      simp only [Receiver.round3_result]
      split_ifs with closed
      · rw [expected]
        rfl
      · exact absurd opened closed
    · exact absurd (accepted.mp expected) agrees
    · exact absurd (accepted.mpr agrees) expected
    · rfl

end ObliviousTransfer
