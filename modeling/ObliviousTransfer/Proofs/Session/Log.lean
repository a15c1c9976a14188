import ObliviousTransfer.Proofs.Session.Execution

/-!
What the log of an operation tells. The events of a round are known from the way
it ends, those of an execution from its nonce and the way it ends, and those of
a setup from the public key and the verdict. So whatever else two calls differ
in, their secrets and drawn bytes included, does not show in their logs.
-/

namespace ObliviousTransfer

def Round.log : Round → Except FailureKind Unit → List Event
  | round, .ok _ => [round.completed]
  | .sender2, .error .invalidResponse => [⟨[.round2], .responseRefused⟩]
  | .receiver3, .error .decommitmentMismatch => [⟨[.round3], .openingRefused⟩]
  | _, .error _ => []

/-- A call of the round records what belongs to the way it ends. -/
def Round.Records {Session Value : Type} (round : Round) (step : Step Session Value) : Prop :=
  step.events = round.log (ending step.result)

theorem Sender.round1_records [KeyedHash] (sender : Sender) (message : PointMessage) :
    Round.sender1.Records (sender.round1 message) := by
  unfold round1
  cases sender.state with
  | awaitingRound1 => cases decodePoint message.point.bytes <;> rfl
  | awaitingRound2 commitments => rfl
  | done => rfl

theorem Sender.round2_records (sender : Sender) (message : ResponseMessage) :
    Round.sender2.Records (sender.round2 message) := by
  unfold round2
  cases sender.state with
  | awaitingRound2 commitments => dsimp only; split <;> rfl
  | awaitingRound1 => rfl
  | done => rfl

theorem Receiver.round1_records [KeyedHash] (receiver : Receiver) (tape : Tape) :
    Round.receiver1.Records (receiver.round1 tape).1 := by
  unfold round1
  cases receiver.state <;> rfl

theorem Receiver.round2_records [KeyedHash] (receiver : Receiver) (message : ChallengeMessage) :
    Round.receiver2.Records (receiver.round2 message) := by
  unfold round2
  cases receiver.state <;> rfl

theorem Receiver.round3_records [KeyedHash] (receiver : Receiver) (message : OpeningMessage) :
    Round.receiver3.Records (receiver.round3 message) := by
  unfold round3
  cases receiver.state with
  | awaitingRound3 pad challenge hashed => dsimp only; split <;> rfl
  | awaitingRound1 => rfl
  | awaitingRound2 pad => rfl
  | done => rfl

theorem Round.same_events {Session Value : Type} {round : Round} {left right : Step Session Value}
    (leftRecords : round.Records left) (rightRecords : round.Records right)
    (same : ending left.result = ending right.result) : left.events = right.events :=
  leftRecords.trans ((congrArg round.log same).trans rightRecords.symm)

namespace Setup

def acceptLog (publicKey : Octets pointBytes) (verdict : Except FailureKind Unit) : List Event :=
  let notice : Notice :=
    match verdict, decodePoint publicKey.bytes with
    | .ok _, _ => .setupAccepted publicKey
    | .error _, .error fault => .setupKeyRefused fault
    | .error _, .ok _ => .setupProofRefused
  [⟨[.setupReceive], notice⟩]

theorem accept_events (context : List Byte) (message : SetupMessage) :
    (accept context message).events =
      acceptLog message.publicKey (ending (accept context message).value) := by
  unfold accept acceptLog
  cases decodePoint message.publicKey.bytes with
  | error fault => rfl
  | ok publicKey => dsimp only; split <;> rfl

end Setup

variable [KeyedHash]

theorem execute_events (nonce : List Byte) (senderSetup : SenderSetup)
    (receiverSetup : ReceiverSetup) (choice : Bool) (tape : Tape) :
    let outcome := execute nonce senderSetup receiverSetup choice tape
    outcome.events = executionLog nonce (ending outcome.result) := by
  intro outcome
  by_cases fits : nonce.length = nonceBytes
  · have ends := execute_eq ⟨nonce, fits⟩ senderSetup receiverSetup choice tape
    change outcome = _ at ends
    rw [ends]
  · have ends := execute_refused fits senderSetup receiverSetup choice tape
    change outcome = _ at ends
    rw [ends]
    rfl

/-- Two calls that end alike under the same nonce or with the same public key record the same,
whatever their secrets, choices, messages and tapes are. -/
theorem logs_carry_no_secret :
    (∀ nonce leftSender rightSender leftReceiver rightReceiver leftChoice rightChoice leftTape
        rightTape,
      let left := execute nonce leftSender leftReceiver leftChoice leftTape
      let right := execute nonce rightSender rightReceiver rightChoice rightTape
      ending left.result = ending right.result → left.events = right.events) ∧
    (∀ (leftSender rightSender : Sender) leftMessage rightMessage,
      let left := leftSender.round1 leftMessage
      let right := rightSender.round1 rightMessage
      ending left.result = ending right.result → left.events = right.events) ∧
    (∀ (leftSender rightSender : Sender) leftMessage rightMessage,
      let left := leftSender.round2 leftMessage
      let right := rightSender.round2 rightMessage
      ending left.result = ending right.result → left.events = right.events) ∧
    (∀ (leftReceiver rightReceiver : Receiver) leftTape rightTape,
      let left := (leftReceiver.round1 leftTape).1
      let right := (rightReceiver.round1 rightTape).1
      ending left.result = ending right.result → left.events = right.events) ∧
    (∀ (leftReceiver rightReceiver : Receiver) leftMessage rightMessage,
      let left := leftReceiver.round2 leftMessage
      let right := rightReceiver.round2 rightMessage
      ending left.result = ending right.result → left.events = right.events) ∧
    (∀ (leftReceiver rightReceiver : Receiver) leftMessage rightMessage,
      let left := leftReceiver.round3 leftMessage
      let right := rightReceiver.round3 rightMessage
      ending left.result = ending right.result → left.events = right.events) ∧
    (∀ leftContext rightContext leftMessage rightMessage,
      let left := Setup.accept leftContext leftMessage
      let right := Setup.accept rightContext rightMessage
      leftMessage.publicKey = rightMessage.publicKey → ending left.value = ending right.value →
        left.events = right.events) ∧
    (∀ leftContext rightContext leftTape rightTape leftMade rightMade,
      let left := Setup.create leftContext leftTape
      let right := Setup.create rightContext rightTape
      left.result = .ok leftMade → right.result = .ok rightMade →
        leftMade.1.publicKey = rightMade.1.publicKey → left.events = right.events) := by
  refine ⟨?_, ?_, ?_, ?_, ?_, ?_, ?_, ?_⟩
  · intro nonce leftSender rightSender leftReceiver rightReceiver leftChoice rightChoice leftTape
      rightTape left right same
    exact (execute_events nonce _ _ _ _).trans
      ((congrArg (executionLog nonce) same).trans (execute_events nonce _ _ _ _).symm)
  · intro leftSender rightSender leftMessage rightMessage left right
    exact Round.same_events (leftSender.round1_records _) (rightSender.round1_records _)
  · intro leftSender rightSender leftMessage rightMessage left right
    exact Round.same_events (leftSender.round2_records _) (rightSender.round2_records _)
  · intro leftReceiver rightReceiver leftTape rightTape left right
    exact Round.same_events (leftReceiver.round1_records _) (rightReceiver.round1_records _)
  · intro leftReceiver rightReceiver leftMessage rightMessage left right
    exact Round.same_events (leftReceiver.round2_records _) (rightReceiver.round2_records _)
  · intro leftReceiver rightReceiver leftMessage rightMessage left right
    exact Round.same_events (leftReceiver.round3_records _) (rightReceiver.round3_records _)
  · intro leftContext rightContext leftMessage rightMessage left right sameKey sameVerdict
    rw [Setup.accept_events, Setup.accept_events, sameKey]
    exact congrArg (Setup.acceptLog rightMessage.publicKey) sameVerdict
  · intro leftContext rightContext leftTape rightTape leftMade rightMade left right leftResult
      rightResult samePublicKey
    cases leftResult
    cases rightResult
    exact congrArg (fun publicKey => [Event.mk [.setupSend] (.setupCreated publicKey)])
      samePublicKey

end ObliviousTransfer
