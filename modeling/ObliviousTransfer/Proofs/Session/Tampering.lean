import ObliviousTransfer.Proofs.Session.Refinement

/-!
An execution between honest parties in which one message is replaced on its way.
A challenge that was replaced is noticed by the sender if the choice is one, and
otherwise by the receiver. Every other response is refused, and of the openings
just those that hash as the real ones do are accepted.
-/

namespace ObliviousTransfer

namespace Exchange

variable {hash : List Byte → Pad} {values : Exchange} {choice : Bool}
  (agrees : values.Agrees hash choice)
include agrees

/-- The choice zero answers without the challenge, and the choice one masks its answer with it. -/
theorem response_to_forged_iff (forged : Pad) :
    responseTo hash choice values.received forged = (values.commitments hash).expected ↔
      choice = false ∨ forged = (values.commitments hash).challenge := by
  cases choice with
  | false => exact iff_of_true agrees (Or.inl rfl)
  | true =>
      have twice : hashTwice hash values.received = hashTwice hash values.pads.rand1 := agrees
      rw [or_iff_right Bool.noConfusion]
      change (hashTwice hash values.received).xor forged = hashTwice hash values.pads.rand0 ↔
        forged = (hashTwice hash values.pads.rand1).xor (hashTwice hash values.pads.rand0)
      rw [twice, Octets.xor_comm, Octets.xor_eq_iff, Octets.xor_comm]

/-- The hash of the chosen opening is known, and the challenge gives the other one. -/
theorem opens_forged_iff (forged : OpeningMessage) :
    Receiver.opens hash choice (values.commitments hash).challenge
        (hashTwice hash values.received) forged = true ↔
      hash forged.decommit0.bytes = hash (values.commitments hash).opening.decommit0.bytes ∧
        hash forged.decommit1.bytes = hash (values.commitments hash).opening.decommit1.bytes := by
  rw [Receiver.opens_iff, agrees]
  generalize hash forged.decommit0.bytes = hashed0
  generalize hash forged.decommit1.bytes = hashed1
  change (hashTwice hash values.pads.rand1).xor (hashTwice hash values.pads.rand0) =
      hashed0.xor hashed1 ∧ _ ↔
    hashed0 = hashTwice hash values.pads.rand0 ∧ hashed1 = hashTwice hash values.pads.rand1
  rw [Octets.xor_comm]
  -- The pad fixes the hash on the side of the choice, which then cancels out of the challenge.
  cases choice with
  | false =>
      rw [and_comm]
      apply and_congr_right
      intro first
      change hashed0 = hashTwice hash values.pads.rand0 at first
      rw [first, Octets.xor_left_inj]
      exact eq_comm
  | true =>
      rw [and_comm, and_comm (a := hashed0 = _)]
      apply and_congr_right
      intro second
      change hashed1 = hashTwice hash values.pads.rand1 at second
      rw [second, Octets.xor_right_inj]
      exact eq_comm

omit agrees in
theorem opens_forged_challenge {forged hashed : Pad}
    (different : forged ≠ (values.commitments hash).challenge) :
    ¬Receiver.opens hash choice forged hashed (values.commitments hash).opening = true := by
  rw [Receiver.opens_iff]
  intro opens
  exact different (opens.1.trans (Octets.xor_comm _ _))

end Exchange

inductive Forgery where
  | challenge (message : ChallengeMessage)
  | response (message : ResponseMessage)
  | opening (message : OpeningMessage)

namespace Forgery

def call : Forgery → PartyCall
  | .challenge message => .receiver (.round2 message)
  | .response message => .sender (.round2 message)
  | .opening message => .receiver (.round3 message)

def roundsBefore : Forgery → Nat
  | .challenge _ => 2
  | .response _ => 3
  | .opening _ => 4

def roundsAfter : Forgery → Nat
  | .challenge _ => 2
  | .response _ => 1
  | .opening _ => 0

end Forgery

def Conversation.replies (conversation : Conversation) : List (Except Failure PartyReply) :=
  [.ok (.receiver (.point conversation.point)),
    .ok (.sender (.challenge conversation.challenge)),
    .ok (.receiver (.response conversation.response)),
    .ok (.sender (.opening conversation.opening conversation.pads)),
    .ok (.receiver (.pad conversation.received))]

namespace Relay

variable [KeyedHash]

/-- The five rounds of an execution, in which one message is replaced if it is sent at all. -/
def playForged (relay : Relay) (forgery : Forgery) : Relay :=
  let before := relay.play forgery.roundsBefore
  { before with due := before.due.map fun _ => forgery.call }.advance.play forgery.roundsAfter

section Rounds

variable (key : Octets nonceBytes) (senderSetup : SenderSetup) (receiverSetup : ReceiverSetup)
  (choice : Bool) (sender : Sender) (receiver : Receiver) (tape : Tape)
  (results : List (Except Failure PartyReply)) (events : List Event)

theorem advance_first :
    let a := tape.scalar.1
    let point : PointMessage :=
      ⟨encodePoint (a • Point.generator + if choice then receiverSetup.publicKey else 0)⟩
    let pad := KeyedHash.hash key (encodePoint (a • receiverSetup.publicKey)).bytes
    (Relay.mk ⟨sender, Receiver.under key receiverSetup choice .awaitingRound1, tape⟩
        (some (.receiver .round1)) results events).advance =
      ⟨⟨sender, Receiver.under key receiverSetup choice (.awaitingRound2 pad), tape.scalar.2⟩,
        some (.sender (.round1 point)), results ++ [.ok (.receiver (.point point))],
        events ++ [⟨[.round1], .roundCompleted .receiver1⟩]⟩ := by
  intro a point pad
  have served := Receiver.serve_first key receiverSetup choice tape
  simp only [advance, perform, Table.serve, served]
  rfl

theorem advance_point {message : PointMessage} {point : Point}
    (decoded : decodePoint message.point.bytes = .ok point) :
    let commitments := Commitments.ofPoint (KeyedHash.hash key) senderSetup point
    (Relay.mk ⟨Sender.under key senderSetup .awaitingRound1, receiver, tape⟩
        (some (.sender (.round1 message))) results events).advance =
      ⟨⟨Sender.under key senderSetup (.awaitingRound2 commitments), receiver, tape⟩,
        some (.receiver (.round2 ⟨commitments.challenge⟩)),
        results ++ [.ok (.sender (.challenge ⟨commitments.challenge⟩))],
        events ++ [⟨[.round1], .roundCompleted .sender1⟩]⟩ := by
  intro commitments
  have served := Sender.serve_decoded key senderSetup decoded
  simp only [advance, perform, Table.serve, served]
  rfl

theorem advance_challenge (pad : Pad) (message : ChallengeMessage) :
    let hash := KeyedHash.hash key
    let response : ResponseMessage := ⟨responseTo hash choice pad message.challenge⟩
    (Relay.mk ⟨sender, Receiver.under key receiverSetup choice (.awaitingRound2 pad), tape⟩
        (some (.receiver (.round2 message))) results events).advance =
      ⟨⟨sender, Receiver.under key receiverSetup choice
          (.awaitingRound3 pad message.challenge (hashTwice hash pad)), tape⟩,
        some (.sender (.round2 response)), results ++ [.ok (.receiver (.response response))],
        events ++ [⟨[.round2], .roundCompleted .receiver2⟩]⟩ := rfl

theorem advance_response (commitments : Commitments) (message : ResponseMessage) :
    (Relay.mk ⟨Sender.under key senderSetup (.awaitingRound2 commitments), receiver, tape⟩
        (some (.sender (.round2 message))) results events).advance =
      if message.response = commitments.expected then
        ⟨⟨Sender.under key senderSetup .done, receiver, tape⟩,
          some (.receiver (.round3 commitments.opening)),
          results ++ [.ok (.sender (.opening commitments.opening commitments.pads))],
          events ++ [⟨[.round2], .roundCompleted .sender2⟩]⟩
      else ⟨⟨Sender.under key senderSetup .done, receiver, tape⟩, none,
        results ++ [.error .invalidResponse], events ++ [⟨[.round2], .responseRefused⟩]⟩ := by
  simp only [advance, perform, Table.serve, Sender.serve, Sender.round2_eq]
  split <;> rfl

theorem advance_opening (pad challenge hashed : Pad) (message : OpeningMessage) :
    (Relay.mk ⟨sender, Receiver.under key receiverSetup choice
          (.awaitingRound3 pad challenge hashed), tape⟩
        (some (.receiver (.round3 message))) results events).advance =
      if Receiver.opens (KeyedHash.hash key) choice challenge hashed message then
        ⟨⟨sender, Receiver.under key receiverSetup choice .done, tape⟩, none,
          results ++ [.ok (.receiver (.pad pad))],
          events ++ [⟨[.round3], .roundCompleted .receiver3⟩]⟩
      else ⟨⟨sender, Receiver.under key receiverSetup choice .done, tape⟩, none,
        results ++ [.error .decommitmentMismatch], events ++ [⟨[.round3], .openingRefused⟩]⟩ := by
  simp only [advance, perform, Table.serve, Receiver.serve_openings]
  split <;> rfl

end Rounds

def recorded : List Event :=
  [⟨[.round1], .roundCompleted .receiver1⟩, ⟨[.round1], .roundCompleted .sender1⟩,
    ⟨[.round2], .roundCompleted .receiver2⟩, ⟨[.round2], .roundCompleted .sender2⟩]

/-- What comes of an execution between honest parties in which one message is replaced. -/
structure TamperingLaw (fresh : Relay) (hash : List Byte → Pad) (choice : Bool)
    (honest : Conversation) : Prop where
  untouched : (fresh.play 5).results = honest.replies
  chosen : honest.received = honest.pads.pick choice
  challenge_unopened : choice = false → ∀ message, message ≠ honest.challenge →
    let tampered := fresh.playForged (.challenge message)
    tampered.results = honest.replies.take 4 ++ [.error .decommitmentMismatch] ∧
      tampered.table.receiver.phase = .done
  challenge_unanswered : choice = true → ∀ message, message ≠ honest.challenge →
    let tampered := fresh.playForged (.challenge message)
    (∃ response, tampered.results = honest.replies.take 2 ++
      [.ok (.receiver (.response response)), .error .invalidResponse]) ∧
      tampered.table.sender.phase = .done
  response_refused : ∀ message, message ≠ honest.response →
    let tampered := fresh.playForged (.response message)
    tampered.results = honest.replies.take 3 ++ [.error .invalidResponse] ∧
      tampered.table.sender.phase = .done
  opening_hashed : ∀ message,
    let tampered := fresh.playForged (.opening message)
    (tampered.results = honest.replies.take 4 ++
      [if hash message.decommit0.bytes = hash honest.opening.decommit0.bytes ∧
          hash message.decommit1.bytes = hash honest.opening.decommit1.bytes then
        .ok (.receiver (.pad (honest.pads.pick choice)))
      else .error .decommitmentMismatch]) ∧
      tampered.table.receiver.phase = .done

section Honest

variable (key : Octets nonceBytes) (setup : SenderSetup) (choice : Bool) (tape : Tape)

/-- An execution after the first rounds of a conversation, with the call that comes next. -/
def stage (conversation : Conversation) (rounds : Nat) (sender : SenderState)
    (receiver : ReceiverState) (call : PartyCall) : Relay :=
  ⟨⟨Sender.under key setup sender, Receiver.under key ⟨setup.publicKey⟩ choice receiver,
      tape.scalar.2⟩, some call, conversation.replies.take rounds, recorded.take rounds⟩

theorem play_forged_eq {relay : Relay} {conversation : Conversation} {sender : SenderState}
    {receiver : ReceiverState} {call : PartyCall} (forgery : Forgery)
    (reached : relay.play forgery.roundsBefore =
      stage key setup choice tape conversation forgery.roundsBefore sender receiver call) :
    relay.playForged forgery =
      (stage key setup choice tape conversation forgery.roundsBefore sender receiver
        forgery.call).advance.play forgery.roundsAfter := by
  rw [playForged, reached]
  rfl

abbrev parties : Relay :=
  fresh (Sender.under key setup .awaitingRound1)
    (Receiver.under key ⟨setup.publicKey⟩ choice .awaitingRound1) tape

variable {values : Exchange} {setup choice tape}
  (drawn : exchange (KeyedHash.hash key) setup setup.publicKey choice tape.scalar.1 = values)
  (notIdentity : values.point ≠ .identity)
include drawn notIdentity

/-- The sender has read the point. The later rounds of an execution go on from here. -/
theorem play_two :
    let hash := KeyedHash.hash key
    let conversation := values.conversation hash
    (parties key setup choice tape).play 2 =
      stage key setup choice tape conversation 2 (.awaitingRound2 (values.commitments hash))
        (.awaitingRound2 values.received) (.receiver (.round2 conversation.challenge)) := by
  intro hash conversation
  have decoded : decodePoint (PointMessage.mk (encodePoint (tape.scalar.1 • Point.generator +
      if choice then setup.publicKey else 0))).point.bytes = .ok values.point := by
    cases drawn
    exact decode_point_encode notIdentity
  rw [parties, fresh, play, play, play, advance_first, advance_point _ _ _ _ _ _ decoded]
  cases drawn
  rfl

theorem play_forged_challenge (message : ChallengeMessage) :
    let hash := KeyedHash.hash key
    let conversation := values.conversation hash
    let response : ResponseMessage := ⟨responseTo hash choice values.received message.challenge⟩
    (parties key setup choice tape).playForged (.challenge message) =
      (Relay.mk ⟨Sender.under key setup (.awaitingRound2 (values.commitments hash)),
          Receiver.under key ⟨setup.publicKey⟩ choice (.awaitingRound3 values.received
            message.challenge (hashTwice hash values.received)), tape.scalar.2⟩
        (some (.sender (.round2 response)))
        (conversation.replies.take 2 ++ [.ok (.receiver (.response response))])
        (recorded.take 3)).play 2 := by
  intro hash conversation response
  rw [play_forged_eq key setup choice tape (.challenge message) (play_two key drawn notIdentity),
    stage, Forgery.call, advance_challenge]
  rfl

variable (agrees : values.Agrees (KeyedHash.hash key) choice)
include agrees

theorem play_three :
    let hash := KeyedHash.hash key
    let conversation := values.conversation hash
    (parties key setup choice tape).play 3 =
      stage key setup choice tape conversation 3 (.awaitingRound2 (values.commitments hash))
        (.awaitingRound3 values.received conversation.challenge.challenge
          (hashTwice hash values.received))
        (.sender (.round2 conversation.response)) := by
  intro hash conversation
  have expected : responseTo hash choice values.received conversation.challenge.challenge =
      conversation.response.response :=
    (Exchange.response_expected_iff hash values choice).mpr agrees
  rw [play_add _ 2 1, play_two key drawn notIdentity, stage, play, play, advance_challenge, expected]
  rfl

theorem play_four :
    let hash := KeyedHash.hash key
    let conversation := values.conversation hash
    (parties key setup choice tape).play 4 =
      stage key setup choice tape conversation 4 .done
        (.awaitingRound3 values.received conversation.challenge.challenge
          (hashTwice hash values.received))
        (.receiver (.round3 conversation.opening)) := by
  intro hash conversation
  rw [play_add _ 3 1, play_three key drawn notIdentity agrees, stage, play, play,
    advance_response]
  exact if_pos rfl

theorem play_five :
    let conversation := values.conversation (KeyedHash.hash key)
    ((parties key setup choice tape).play 5).results = conversation.replies := by
  intro conversation
  have opens := Exchange.opens_of_agrees (KeyedHash.hash key) values choice agrees
  rw [play_add _ 4 1, play_four key drawn notIdentity agrees, stage, play, play, advance_opening]
  exact congrArg results (if_pos opens)

theorem play_forged_challenge_zero (zero : choice = false) {message : ChallengeMessage}
    (different : message.challenge ≠ (values.commitments (KeyedHash.hash key)).challenge) :
    let conversation := values.conversation (KeyedHash.hash key)
    (parties key setup choice tape).playForged (.challenge message) =
      ⟨⟨Sender.under key setup .done, Receiver.under key ⟨setup.publicKey⟩ choice .done,
          tape.scalar.2⟩, none, conversation.replies.take 4 ++ [.error .decommitmentMismatch],
        recorded ++ [⟨[.round3], .openingRefused⟩]⟩ := by
  intro conversation
  have expected := (Exchange.response_to_forged_iff agrees message.challenge).mpr (Or.inl zero)
  rw [play_forged_challenge key drawn notIdentity, expected, play, play, play, advance_response,
    if_pos rfl, advance_opening]
  exact if_neg (Exchange.opens_forged_challenge different)

theorem play_forged_challenge_one (one : choice = true) {message : ChallengeMessage}
    (different : message.challenge ≠ (values.commitments (KeyedHash.hash key)).challenge) :
    let hash := KeyedHash.hash key
    let conversation := values.conversation hash
    let response : ResponseMessage := ⟨responseTo hash choice values.received message.challenge⟩
    (parties key setup choice tape).playForged (.challenge message) =
      ⟨⟨Sender.under key setup .done, Receiver.under key ⟨setup.publicKey⟩ choice
          (.awaitingRound3 values.received message.challenge (hashTwice hash values.received)),
          tape.scalar.2⟩, none,
        conversation.replies.take 2 ++
          [.ok (.receiver (.response response)), .error .invalidResponse],
        recorded.take 3 ++ [⟨[.round2], .responseRefused⟩]⟩ := by
  intro hash conversation response
  have unexpected : response.response ≠ (values.commitments hash).expected := by
    intro expected
    rcases (Exchange.response_to_forged_iff agrees message.challenge).mp expected with zero | same
    · cases zero.symm.trans one
    · exact different same
  rw [play_forged_challenge key drawn notIdentity, play, advance_response, if_neg unexpected,
    List.append_assoc]
  exact play_of_finished rfl 1

theorem play_forged_response {message : ResponseMessage}
    (different : message.response ≠ (values.commitments (KeyedHash.hash key)).expected) :
    let hash := KeyedHash.hash key
    let conversation := values.conversation hash
    (parties key setup choice tape).playForged (.response message) =
      ⟨⟨Sender.under key setup .done, Receiver.under key ⟨setup.publicKey⟩ choice
          (.awaitingRound3 values.received conversation.challenge.challenge
            (hashTwice hash values.received)), tape.scalar.2⟩, none,
        conversation.replies.take 3 ++ [.error .invalidResponse],
        recorded.take 3 ++ [⟨[.round2], .responseRefused⟩]⟩ := by
  intro hash conversation
  rw [play_forged_eq key setup choice tape (.response message)
    (play_three key drawn notIdentity agrees), stage, Forgery.call, advance_response,
    if_neg different]
  exact play_of_finished rfl 1

theorem play_forged_opening (message : OpeningMessage) :
    let hash := KeyedHash.hash key
    let conversation := values.conversation hash
    let table : Table := ⟨Sender.under key setup .done,
      Receiver.under key ⟨setup.publicKey⟩ choice .done, tape.scalar.2⟩
    (parties key setup choice tape).playForged (.opening message) =
      if hash message.decommit0.bytes = hash conversation.opening.decommit0.bytes ∧
          hash message.decommit1.bytes = hash conversation.opening.decommit1.bytes then
        ⟨table, none, conversation.replies.take 4 ++ [.ok (.receiver (.pad values.received))],
          recorded ++ [⟨[.round3], .roundCompleted .receiver3⟩]⟩
      else ⟨table, none, conversation.replies.take 4 ++ [.error .decommitmentMismatch],
        recorded ++ [⟨[.round3], .openingRefused⟩]⟩ := by
  intro hash conversation table
  rw [play_forged_eq key setup choice tape (.opening message)
    (play_four key drawn notIdentity agrees), stage, Forgery.call, advance_opening]
  exact if_congr (Exchange.opens_forged_iff agrees message) rfl rfl

omit agrees in
theorem tampering_law (chosen : values.received = values.pads.pick choice) :
    let hash := KeyedHash.hash key
    (parties key setup choice tape).TamperingLaw hash choice (values.conversation hash) := by
  intro hash
  have agrees : values.Agrees hash choice := congrArg (hashTwice hash) chosen
  constructor
  case untouched => exact play_five key drawn notIdentity agrees
  case chosen => exact chosen
  case challenge_unopened =>
    intro zero message other
    have different : message.challenge ≠ (values.commitments hash).challenge :=
      fun same => other (congrArg ChallengeMessage.mk same)
    rw [play_forged_challenge_zero key drawn notIdentity agrees zero different]
    exact ⟨rfl, rfl⟩
  case challenge_unanswered =>
    intro one message other
    have different : message.challenge ≠ (values.commitments hash).challenge :=
      fun same => other (congrArg ChallengeMessage.mk same)
    rw [play_forged_challenge_one key drawn notIdentity agrees one different]
    exact ⟨⟨_, rfl⟩, rfl⟩
  case response_refused =>
    intro message other
    have different : message.response ≠ (values.commitments hash).expected :=
      fun same => other (congrArg ResponseMessage.mk same)
    rw [play_forged_response key drawn notIdentity agrees different]
    exact ⟨rfl, rfl⟩
  case opening_hashed =>
    intro message
    have kept : (values.conversation hash).pads.pick choice = values.received := chosen.symm
    rw [play_forged_opening key drawn notIdentity agrees, kept]
    split <;> exact ⟨rfl, rfl⟩

end Honest

end Relay

/-- A replaced message is refused by one of the parties, which is then done, except for openings
with the hashes of the real ones; these leave the receiver with the pad of its choice. -/
theorem tampering_refused [KeyedHash] (key : Octets nonceBytes) {setup : SenderSetup}
    (consistent : setup.Consistent) (choice : Bool) (tape : Tape)
    (notIdentity :
      tape.scalar.1 • Point.generator + (if choice then setup.publicKey else 0) ≠ .identity) :
    ∃ fresh honest,
      Relay.start key.bytes setup ⟨setup.publicKey⟩ choice tape = .ok fresh ∧
      converse key.bytes setup ⟨setup.publicKey⟩ choice tape = .ok honest ∧
      fresh.TamperingLaw (KeyedHash.hash key) choice honest := by
  let hash := KeyedHash.hash key
  refine ⟨_, _, Relay.start_eq key setup ⟨setup.publicKey⟩ choice tape,
    converse_of_consistent key consistent choice tape notIdentity, ?_⟩
  exact Relay.tampering_law key rfl notIdentity
    (Exchange.received_eq_pick hash choice consistent tape.scalar.1)

/-- The secret three and the receiver's scalar five, with the choice that masks the response. -/
theorem tampering_refused_at_three :
    let secret : Scalar := 3
    let publicKey := secret • Point.generator
    let setup : SenderSetup := ⟨secret, publicKey, secret • publicKey⟩
    let key := Octets.zero nonceBytes
    let tape := Tape.ofBytes (encodeScalar 5).bytes
    ∃ fresh honest, Relay.start key.bytes setup ⟨publicKey⟩ true tape = .ok fresh ∧
      converse key.bytes setup ⟨publicKey⟩ true tape = .ok honest ∧
      fresh.TamperingLaw (KeyedHash.hash key) true honest := by
  intro secret publicKey setup key tape
  have notIdentity : tape.scalar.1 • Point.generator + publicKey ≠ .identity := by
    rw [show tape.scalar.1 = 5 from Tape.scalar_of_encoded 5]
    decide +kernel
  exact tampering_refused key ⟨rfl, rfl⟩ true tape notIdentity

end ObliviousTransfer
