import ObliviousTransfer.Proofs.Session.Rounds

/-!
An execution from beginning to end: its result, what it draws and what it
records. Once the receiver has sent its point, the sender may refuse that point
or the response to its challenge, and nothing else can fail.
-/

namespace ObliviousTransfer

/-- How a call ends, as its caller can tell it: with a value, or with a kind of failure. -/
def ending {Value : Type} (result : Except Failure Value) : Except FailureKind Unit :=
  (result.mapError Failure.kind).map fun _ => ()

def Round.completed (round : Round) : Event := ⟨[round.span], .roundCompleted round⟩

namespace Action

variable {Value Next Session : Type} {next : Value → Action Next} {tape rest last : Tape}
  {events more whole : List Event}

theorem bind_of_ok {action : Action Value} {value : Value} {result : Except Failure Next}
    (first : action tape = ⟨.ok value, rest, events⟩)
    (second : next value rest = ⟨result, last, more⟩) (joined : events ++ more = whole) :
    (action >>= next) tape = ⟨result, last, whole⟩ := by
  change andThen action next tape = _
  unfold andThen
  simp only [first, second, joined]

theorem bind_of_error {action : Action Value} {failure : Failure}
    (first : action tape = ⟨.error failure, rest, events⟩) :
    (action >>= next) tape = ⟨.error failure, rest, events⟩ := by
  change andThen action next tape = _
  unfold andThen
  simp only [first]

theorem within_eq {action : Action Value} {span : Span} {result : Except Failure Value}
    (inside : action tape = ⟨result, rest, events⟩) :
    within span action tape = ⟨result, rest, events.map (Event.within span)⟩ := by
  rw [within, inside]

theorem of_step_ok {step : Step Session Value} {session : Session} {value : Value}
    (same : step = ⟨session, .ok value, events⟩) :
    ofStep step tape = ⟨.ok (session, value), tape, events⟩ := by
  rw [same]
  rfl

theorem of_step_error {step : Step Session Value} {session : Session} {failure : Failure}
    (same : step = ⟨session, .error failure, events⟩) :
    ofStep step tape = ⟨.error failure, tape, events⟩ := by
  rw [same]
  rfl

end Action

def executionLog (nonce : List Byte) (ending : Except FailureKind Unit) : List Event :=
  let inside :=
    match ending with
    | .ok _ =>
        [Round.receiver1.completed, Round.sender1.completed, Round.receiver2.completed,
          Round.sender2.completed, Round.receiver3.completed, ⟨[], .executionCompleted⟩]
    | .error .deserialization => [Round.receiver1.completed]
    | .error .invalidResponse =>
        [Round.receiver1.completed, Round.sender1.completed, Round.receiver2.completed,
          ⟨[.round2], .responseRefused⟩]
    | .error _ => []
  inside.map (Event.within (.execute nonce))

variable [KeyedHash]

section Under

variable (key : Octets nonceBytes) (senderSetup : SenderSetup) (receiverSetup : ReceiverSetup)
  (choice : Bool) (tape : Tape)

theorem send_eq :
    let values := exchange (KeyedHash.hash key) senderSetup receiverSetup.publicKey choice
      tape.scalar.1
    (Receiver.under key receiverSetup choice .awaitingRound1).send tape =
      ⟨.ok (Receiver.under key receiverSetup choice (.awaitingRound2 values.received),
        ⟨encodePoint values.point⟩), tape.scalar.2, [Round.receiver1.completed]⟩ := by
  rw [Receiver.send, Receiver.round1_eq]
  rfl

theorem execute_of_identity :
    let values := exchange (KeyedHash.hash key) senderSetup receiverSetup.publicKey choice
      tape.scalar.1
    values.point = .identity → execute key.bytes senderSetup receiverSetup choice tape =
      ⟨.error (.encoding .pointForm), tape.scalar.2,
        executionLog key.bytes (.error .deserialization)⟩ := by
  intro values identity
  have refused := Sender.round1_of_identity key senderSetup identity
  rw [execute, Sender.start_eq, Receiver.start_eq]
  apply Action.within_eq
  refine Action.bind_of_ok rfl ?_ rfl
  refine Action.bind_of_ok rfl ?_ rfl
  refine Action.bind_of_ok (send_eq key senderSetup receiverSetup choice tape) ?_ rfl
  exact Action.bind_of_error (Action.of_step_error refused)

theorem execute_of_agrees :
    let hash := KeyedHash.hash key
    let values := exchange hash senderSetup receiverSetup.publicKey choice tape.scalar.1
    values.point ≠ .identity → values.Agrees hash choice →
      execute key.bytes senderSetup receiverSetup choice tape =
        ⟨.ok (values.pads, values.received), tape.scalar.2, executionLog key.bytes (.ok ())⟩ := by
  intro hash values notIdentity agrees
  have committed := Sender.round1_of_point key senderSetup notIdentity
  have accepted := (values.response_expected_iff hash choice).mpr agrees
  have opened := values.opens_of_agrees hash choice agrees
  rw [execute, Sender.start_eq, Receiver.start_eq]
  apply Action.within_eq
  refine Action.bind_of_ok rfl ?_ rfl
  refine Action.bind_of_ok rfl ?_ rfl
  refine Action.bind_of_ok (send_eq key senderSetup receiverSetup choice tape) ?_ rfl
  refine Action.bind_of_ok (Action.of_step_ok committed) ?_ rfl
  refine Action.bind_of_ok (Action.of_step_ok rfl) ?_ rfl
  refine Action.bind_of_ok (Action.of_step_ok (if_pos accepted)) ?_ rfl
  exact Action.bind_of_ok (Action.of_step_ok (if_pos opened)) rfl rfl

theorem execute_of_disagrees :
    let hash := KeyedHash.hash key
    let values := exchange hash senderSetup receiverSetup.publicKey choice tape.scalar.1
    values.point ≠ .identity → ¬values.Agrees hash choice →
      execute key.bytes senderSetup receiverSetup choice tape =
        ⟨.error .invalidResponse, tape.scalar.2,
          executionLog key.bytes (.error .invalidResponse)⟩ := by
  intro hash values notIdentity disagrees
  have committed := Sender.round1_of_point key senderSetup notIdentity
  have refused := mt (values.response_expected_iff hash choice).mp disagrees
  rw [execute, Sender.start_eq, Receiver.start_eq]
  apply Action.within_eq
  refine Action.bind_of_ok rfl ?_ rfl
  refine Action.bind_of_ok rfl ?_ rfl
  refine Action.bind_of_ok (send_eq key senderSetup receiverSetup choice tape) ?_ rfl
  refine Action.bind_of_ok (Action.of_step_ok committed) ?_ rfl
  refine Action.bind_of_ok (Action.of_step_ok rfl) ?_ rfl
  exact Action.bind_of_error (Action.of_step_error (if_neg refused))

theorem execute_eq :
    let hash := KeyedHash.hash key
    let values := exchange hash senderSetup receiverSetup.publicKey choice tape.scalar.1
    let result : Except Failure (PadPair × Pad) :=
      if values.point = .identity then .error (.encoding .pointForm)
      else if values.Agrees hash choice then .ok (values.pads, values.received)
      else .error .invalidResponse
    execute key.bytes senderSetup receiverSetup choice tape =
      ⟨result, tape.scalar.2, executionLog key.bytes (ending result)⟩ := by
  intro hash values result
  by_cases identity : values.point = .identity
  · have ends : result = .error (.encoding .pointForm) := if_pos identity
    rw [ends]
    exact execute_of_identity key senderSetup receiverSetup choice tape identity
  · by_cases agrees : values.Agrees hash choice
    · have ends : result = .ok (values.pads, values.received) :=
        (if_neg identity).trans (if_pos agrees)
      rw [ends]
      exact execute_of_agrees key senderSetup receiverSetup choice tape identity agrees
    · have ends : result = .error .invalidResponse :=
        (if_neg identity).trans (if_neg agrees)
      rw [ends]
      exact execute_of_disagrees key senderSetup receiverSetup choice tape identity agrees

end Under

theorem execute_refused {nonce : List Byte} (wrong : nonce.length ≠ nonceBytes)
    (senderSetup : SenderSetup) (receiverSetup : ReceiverSetup) (choice : Bool) (tape : Tape) :
    execute nonce senderSetup receiverSetup choice tape =
      ⟨.error (.nonceLength nonce.length), tape,
        executionLog nonce (.error .invalidNonceLength)⟩ := by
  rw [execute, Sender.start, keyed_oracle_refused wrong]
  rfl

end ObliviousTransfer
