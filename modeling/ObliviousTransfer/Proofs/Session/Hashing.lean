import ObliviousTransfer.Proofs.Curve.Spelling
import ObliviousTransfer.Proofs.Session.Outcome
import ObliviousTransfer.Proofs.Setup.Normalisation

/-!
The strings that the rounds hash. A computation that asks for hashes can be run
with any answers, and then tells what it asked. The rounds are such computations:
they hash encoded points for the pads and pads for the commitments, and a sender
never hashes one string for both of its pads.
-/

namespace ObliviousTransfer

/-- What a string is hashed for: one of the two pads, or a commitment to them. -/
inductive Purpose where
  | pad
  | commitment
  deriving DecidableEq

structure Query where
  purpose : Purpose
  input : List Byte
  deriving DecidableEq

/-- The strings hashed for pads are of another length than those hashed for commitments. -/
def Query.Sized (query : Query) : Prop :=
  query.input.length =
    match query.purpose with
    | .pad => 33
    | .commitment => 32

/-- A computation that sees the hash only through its queries. -/
inductive Hashing (Value : Type) where
  | done (value : Value)
  | ask (query : Query) (next : Pad → Hashing Value)

namespace Hashing

variable {Value Next : Type}

def andThen : Hashing Value → (Value → Hashing Next) → Hashing Next
  | .done value, next => next value
  | .ask query rest, next => .ask query fun answer => (rest answer).andThen next

instance : Monad Hashing where
  pure := .done
  bind := andThen

def hash (purpose : Purpose) (input : List Byte) : Hashing Pad := .ask ⟨purpose, input⟩ .done

def run (answer : List Byte → Pad) : Hashing Value → Value
  | .done value => value
  | .ask query next => (next (answer query.input)).run answer

def queries (answer : List Byte → Pad) : Hashing Value → List Query
  | .done _ => []
  | .ask query next => query :: (next (answer query.input)).queries answer

def inputs (purpose : Purpose) (answer : List Byte → Pad) (computation : Hashing Value) :
    List (List Byte) :=
  ((computation.queries answer).filter fun query => query.purpose = purpose).map Query.input

def Sized : Hashing Value → Prop
  | .done _ => True
  | .ask query next => query.Sized ∧ ∀ answer, (next answer).Sized

theorem sized_and_then {computation : Hashing Value} {next : Value → Hashing Next}
    (first : computation.Sized) (second : ∀ value, (next value).Sized) :
    (computation >>= next).Sized := by
  induction computation with
  | done value => exact second value
  | ask query rest ih => exact ⟨first.1, fun answer => ih answer (first.2 answer)⟩

theorem queries_sized {computation : Hashing Value} (sized : computation.Sized)
    (answer : List Byte → Pad) : ∀ query ∈ computation.queries answer, query.Sized := by
  induction computation with
  | done value => exact fun _ member => nomatch member
  | ask query rest ih =>
      intro other member
      rcases List.mem_cons.mp member with rfl | later
      · exact sized.1
      · exact ih _ (sized.2 _) other later

theorem hash_point_sized (point : Point) : (hash .pad (encodePoint point).bytes).Sized :=
  ⟨(encodePoint point).length_eq, fun _ => trivial⟩

theorem hash_pad_sized (pad : Pad) : (hash .commitment pad.bytes).Sized :=
  ⟨pad.length_eq, fun _ => trivial⟩

end Hashing

/-- The sender's derivation of its pads and commitments, hash by hash. -/
def Commitments.hashing (setup : SenderSetup) (point : Point) : Hashing Commitments := do
  let shared := setup.secret • point
  let rand0 ← Hashing.hash .pad (encodePoint shared).bytes
  let rand1 ← Hashing.hash .pad (encodePoint (shared - setup.secretKey)).bytes
  let decommit0 ← Hashing.hash .commitment rand0.bytes
  let decommit1 ← Hashing.hash .commitment rand1.bytes
  let expected ← Hashing.hash .commitment decommit0.bytes
  let other ← Hashing.hash .commitment decommit1.bytes
  return ⟨⟨rand0, rand1⟩, ⟨decommit0, decommit1⟩, expected, other.xor expected⟩

theorem Commitments.hashing_sized (setup : SenderSetup) (point : Point) :
    (hashing setup point).Sized := by
  unfold hashing
  refine Hashing.sized_and_then (Hashing.hash_point_sized _) fun rand0 => ?_
  refine Hashing.sized_and_then (Hashing.hash_point_sized _) fun rand1 => ?_
  refine Hashing.sized_and_then (Hashing.hash_pad_sized rand0) fun decommit0 => ?_
  refine Hashing.sized_and_then (Hashing.hash_pad_sized rand1) fun decommit1 => ?_
  refine Hashing.sized_and_then (Hashing.hash_pad_sized decommit0) fun expected => ?_
  exact Hashing.sized_and_then (Hashing.hash_pad_sized decommit1) fun other => trivial

namespace Sender

/-- Round 1 as a computation that asks for its hashes. Round 2 asks for none. -/
def hashing1 (sender : Sender) (message : PointMessage) : Hashing (Step Sender ChallengeMessage) :=
  match sender.state with
  | .awaitingRound1 =>
      match decodePoint message.point.bytes with
      | .error fault => .done (sender.finish (.error (.encoding fault)) [])
      | .ok point => do
          let commitments ← Commitments.hashing sender.setup point
          return ⟨{ sender with state := .awaitingRound2 commitments },
            .ok ⟨commitments.challenge⟩, [⟨[.round1], .roundCompleted .sender1⟩]⟩
  | _ => .done (sender.outOfPhase .sender1)

theorem run_hashing1 [KeyedHash] (sender : Sender) (message : PointMessage) :
    (sender.hashing1 message).run sender.oracle.hash = sender.round1 message := by
  unfold hashing1 round1
  cases sender.state with
  | awaitingRound1 => cases decodePoint message.point.bytes <;> rfl
  | awaitingRound2 commitments => rfl
  | done => rfl

theorem hashing1_sized (sender : Sender) (message : PointMessage) :
    (sender.hashing1 message).Sized := by
  unfold hashing1
  cases sender.state with
  | awaitingRound1 =>
      cases decodePoint message.point.bytes with
      | error fault => trivial
      | ok point =>
          exact Hashing.sized_and_then (Commitments.hashing_sized _ _) fun commitments => trivial
  | awaitingRound2 commitments => trivial
  | done => trivial

end Sender

namespace Receiver

def hashing1 (receiver : Receiver) (tape : Tape) :
    Hashing (Step Receiver PointMessage × Tape) :=
  match receiver.state with
  | .awaitingRound1 => do
      let (a, rest) := tape.scalar
      let pad ← Hashing.hash .pad (encodePoint (a • receiver.publicKey)).bytes
      return (⟨{ receiver with state := .awaitingRound2 pad },
        .ok ⟨encodePoint (sentPoint receiver.publicKey receiver.choice a)⟩,
        [⟨[.round1], .roundCompleted .receiver1⟩]⟩, rest)
  | _ => .done (receiver.outOfPhase .receiver1, tape)

def hashing2 (receiver : Receiver) (message : ChallengeMessage) :
    Hashing (Step Receiver ResponseMessage) :=
  match receiver.state with
  | .awaitingRound2 pad => do
      let once ← Hashing.hash .commitment pad.bytes
      let hashed ← Hashing.hash .commitment once.bytes
      let response := if receiver.choice then hashed.xor message.challenge else hashed
      return ⟨{ receiver with state := .awaitingRound3 pad message.challenge hashed },
        .ok ⟨response⟩, [⟨[.round2], .roundCompleted .receiver2⟩]⟩
  | _ => .done (receiver.outOfPhase .receiver2)

def hashing3 (receiver : Receiver) (message : OpeningMessage) : Hashing (Step Receiver Pad) :=
  match receiver.state with
  | .awaitingRound3 pad challenge hashed => do
      let closed : Receiver := { receiver with state := .done }
      let hashed0 ← Hashing.hash .commitment message.decommit0.bytes
      let hashed1 ← Hashing.hash .commitment message.decommit1.bytes
      let fits := decide (challenge = hashed0.xor hashed1) &&
        decide ((if receiver.choice then hashed1 else hashed0) = hashed)
      return if fits then ⟨closed, .ok pad, [⟨[.round3], .roundCompleted .receiver3⟩]⟩
        else ⟨closed, .error .decommitmentMismatch, [⟨[.round3], .openingRefused⟩]⟩
  | _ => .done (receiver.outOfPhase .receiver3)

theorem run_hashing1 [KeyedHash] (receiver : Receiver) (tape : Tape) :
    (receiver.hashing1 tape).run receiver.oracle.hash = receiver.round1 tape := by
  unfold hashing1 round1
  cases receiver.state <;> rfl

theorem run_hashing2 [KeyedHash] (receiver : Receiver) (message : ChallengeMessage) :
    (receiver.hashing2 message).run receiver.oracle.hash = receiver.round2 message := by
  unfold hashing2 round2
  cases receiver.state <;> rfl

theorem run_hashing3 [KeyedHash] (receiver : Receiver) (message : OpeningMessage) :
    (receiver.hashing3 message).run receiver.oracle.hash = receiver.round3 message := by
  unfold hashing3 round3
  cases receiver.state <;> rfl

theorem hashing1_sized (receiver : Receiver) (tape : Tape) : (receiver.hashing1 tape).Sized := by
  unfold hashing1
  cases receiver.state with
  | awaitingRound1 =>
      exact Hashing.sized_and_then (Hashing.hash_point_sized _) fun pad => trivial
  | _ => trivial

theorem hashing2_sized (receiver : Receiver) (message : ChallengeMessage) :
    (receiver.hashing2 message).Sized := by
  unfold hashing2
  cases receiver.state with
  | awaitingRound2 pad =>
      refine Hashing.sized_and_then (Hashing.hash_pad_sized pad) fun once => ?_
      exact Hashing.sized_and_then (Hashing.hash_pad_sized once) fun hashed => trivial
  | _ => trivial

theorem hashing3_sized (receiver : Receiver) (message : OpeningMessage) :
    (receiver.hashing3 message).Sized := by
  unfold hashing3
  cases receiver.state with
  | awaitingRound3 pad challenge hashed =>
      refine Hashing.sized_and_then (Hashing.hash_pad_sized message.decommit0) fun hashed0 => ?_
      exact Hashing.sized_and_then (Hashing.hash_pad_sized message.decommit1) fun hashed1 => trivial
  | _ => trivial

end Receiver

/-- Some round of some session makes the query. -/
inductive Hashed [KeyedHash] : Query → Prop
  | sender1 {sender : Sender} {message : PointMessage} {query : Query}
      (asked : query ∈ (sender.hashing1 message).queries sender.oracle.hash) : Hashed query
  | receiver1 {receiver : Receiver} {tape : Tape} {query : Query}
      (asked : query ∈ (receiver.hashing1 tape).queries receiver.oracle.hash) : Hashed query
  | receiver2 {receiver : Receiver} {message : ChallengeMessage} {query : Query}
      (asked : query ∈ (receiver.hashing2 message).queries receiver.oracle.hash) : Hashed query
  | receiver3 {receiver : Receiver} {message : OpeningMessage} {query : Query}
      (asked : query ∈ (receiver.hashing3 message).queries receiver.oracle.hash) : Hashed query

theorem Hashed.sized [KeyedHash] {query : Query} (hashed : Hashed query) : query.Sized := by
  cases hashed with
  | sender1 asked => exact Hashing.queries_sized (Sender.hashing1_sized _ _) _ _ asked
  | receiver1 asked => exact Hashing.queries_sized (Receiver.hashing1_sized _ _) _ _ asked
  | receiver2 asked => exact Hashing.queries_sized (Receiver.hashing2_sized _ _) _ _ asked
  | receiver3 asked => exact Hashing.queries_sized (Receiver.hashing3_sized _ _) _ _ asked

theorem Hashed.pad_ne_commitment [KeyedHash] {pad commitment : List Byte}
    (hashedPad : Hashed ⟨.pad, pad⟩) (hashedCommitment : Hashed ⟨.commitment, commitment⟩) :
    pad ≠ commitment := by
  intro same
  have long : pad.length = 33 := hashedPad.sized
  have short : commitment.length = 32 := hashedCommitment.sized
  rw [same, short] at long
  exact absurd long (by decide)

namespace SenderSetup

/-- A setup that was loaded from a text, or created with a secret that is not zero. -/
def Admitted (setup : SenderSetup) : Prop :=
  (∃ text, Json.load format text = .ok setup) ∨
    ∃ context tape message, (Setup.create context tape).result = .ok (message, setup) ∧
      setup.secret ≠ 0

theorem Admitted.secret_key_ne_identity {setup : SenderSetup} (admitted : setup.Admitted) :
    setup.secretKey ≠ .identity := by
  rcases admitted with ⟨text, loaded⟩ | ⟨context, tape, message, created, nonzero⟩
  · obtain ⟨⟨secret, publicKey, secretKey, _⟩, fields, rfl⟩ :=
      Json.Format.transport_yields (Json.yields_of_load loaded)
    exact Json.point_yields (Json.Format.record_yields fields).2.2.1
  · intro identity
    have consistent := Setup.created_consistent created
    exact nonzero (consistent.holds_identity_iff.mp (Or.inr identity))

theorem Admitted.shared_ne {setup : SenderSetup} (admitted : setup.Admitted) (point : Point) :
    encodePoint (setup.secret • point) ≠ encodePoint (setup.secret • point - setup.secretKey) := by
  intro same
  have shared := encode_point_injective same
  exact admitted.secret_key_ne_identity (sub_eq_self.mp shared.symm)

end SenderSetup

namespace Sender

variable (key : Octets nonceBytes) (setup : SenderSetup)

theorem pad_inputs {message : PointMessage} {point : Point}
    (decoded : decodePoint message.point.bytes = .ok point) (answer : List Byte → Pad) :
    ((under key setup .awaitingRound1).hashing1 message).inputs .pad answer =
      [(encodePoint (setup.secret • point)).bytes,
        (encodePoint (setup.secret • point - setup.secretKey)).bytes] := by
  simp only [hashing1, under, decoded]
  rfl

theorem decoded_of_accepted [KeyedHash] {message : PointMessage} {challenge : ChallengeMessage}
    (accepted : ((under key setup .awaitingRound1).round1 message).result = .ok challenge) :
    ∃ point, decodePoint message.point.bytes = .ok point := by
  cases decoded : decodePoint message.point.bytes with
  | error fault =>
      rw [round1_of_refused key setup decoded] at accepted
      cases accepted
  | ok point => exact ⟨point, rfl⟩

end Sender

theorem Receiver.pad_inputs (key : Octets nonceBytes) (setup : ReceiverSetup) (choice : Bool)
    (tape : Tape) (answer : List Byte → Pad) :
    ((under key setup choice .awaitingRound1).hashing1 tape).inputs .pad answer =
      [(encodePoint (tape.scalar.1 • setup.publicKey)).bytes] := rfl

section Pads

variable [KeyedHash] (key : Octets nonceBytes) {setup : SenderSetup} (admitted : setup.Admitted)
include admitted

theorem accepted_pads {sender : Sender} {message : PointMessage} {challenge : ChallengeMessage}
    (started : Sender.start key.bytes setup = .ok sender)
    (accepted : (sender.round1 message).result = .ok challenge) :
    let hash := KeyedHash.hash key
    ∃ first second commitments,
      (sender.hashing1 message).inputs .pad hash = [first, second] ∧ first ≠ second ∧
      (sender.round1 message).session.state = .awaitingRound2 commitments ∧
      commitments.pads = ⟨hash first, hash second⟩ ∧
      (commitments.pads.rand0 = commitments.pads.rand1 → hash first = hash second) := by
  intro hash
  rw [Sender.start_eq] at started
  cases started
  obtain ⟨point, decoded⟩ := Sender.decoded_of_accepted key setup accepted
  have state := congrArg (fun step : Step Sender ChallengeMessage => step.session.state)
    (Sender.round1_of_decoded key setup decoded)
  have asked := Sender.pad_inputs key setup decoded hash
  refine ⟨_, _, _, asked, ?_, state, rfl, fun same => same⟩
  exact fun same => admitted.shared_ne point (Octets.ext same)

/-- Between honest parties the receiver hashes the string of its choice. -/
theorem honest_pads (consistent : setup.Consistent) {choice : Bool} {tape : Tape}
    {pads : PadPair} {pad : Pad}
    (succeeds : (execute key.bytes setup ⟨setup.publicKey⟩ choice tape).result = .ok (pads, pad)) :
    let hash := KeyedHash.hash key
    ∃ sender receiver point first second,
      Sender.start key.bytes setup = .ok sender ∧
      Receiver.start key.bytes ⟨setup.publicKey⟩ choice = .ok receiver ∧
      (receiver.round1 tape).1.result = .ok point ∧
      (sender.hashing1 point).inputs .pad hash = [first, second] ∧
      (receiver.hashing1 tape).inputs .pad hash = [if choice then second else first] ∧
      first ≠ second ∧ pads = ⟨hash first, hash second⟩ ∧
      pad = hash (if choice then second else first) := by
  intro hash
  let a := tape.scalar.1
  let sent := a • Point.generator + if choice then setup.publicKey else 0
  let first := encodePoint (setup.secret • sent)
  let second := encodePoint (setup.secret • sent - setup.secretKey)
  have result := execute_result_under key setup ⟨setup.publicKey⟩ choice tape
  have ends := result.symm.trans succeeds
  split_ifs at ends with identity agrees
  cases ends
  have decoded : decodePoint (encodePoint sent).bytes = .ok sent := decode_point_encode identity
  have shared := Exchange.shared_eq_pick choice consistent a
  have chosen : (encodePoint (a • setup.publicKey)).bytes =
      if choice then second.bytes else first.bytes := by
    rw [shared]
    cases choice <;> rfl
  have sender := Sender.start_eq key setup
  have receiver := Receiver.start_eq key ⟨setup.publicKey⟩ choice
  have senderAsks := @Sender.pad_inputs key setup ⟨encodePoint sent⟩ sent decoded hash
  have receiverAsks := Receiver.pad_inputs key ⟨setup.publicKey⟩ choice tape hash
  have different : first.bytes ≠ second.bytes :=
    fun same => admitted.shared_ne sent (Octets.ext same)
  refine ⟨_, _, ⟨encodePoint sent⟩, first.bytes, second.bytes, sender, receiver, ?_, senderAsks,
    ?_, different, rfl, congrArg hash chosen⟩
  · rw [Receiver.round1_eq]
  · rw [← chosen]
    exact receiverAsks

end Pads

/-- The strings that are hashed under a key: what the rounds ask for, how long it is, and what a
sender with the setup asks for its pads. -/
structure PreimageLaw [KeyedHash] (key : Octets nonceBytes) (setup : SenderSetup) : Prop where
  sender_round1 : ∀ (sender : Sender) message,
    (sender.hashing1 message).run sender.oracle.hash = sender.round1 message
  receiver_round1 : ∀ (receiver : Receiver) tape,
    (receiver.hashing1 tape).run receiver.oracle.hash = receiver.round1 tape
  receiver_round2 : ∀ (receiver : Receiver) message,
    (receiver.hashing2 message).run receiver.oracle.hash = receiver.round2 message
  receiver_round3 : ∀ (receiver : Receiver) message,
    (receiver.hashing3 message).run receiver.oracle.hash = receiver.round3 message
  sized : ∀ query, Hashed query → query.Sized
  separated : ∀ pad commitment, Hashed ⟨.pad, pad⟩ → Hashed ⟨.commitment, commitment⟩ →
    pad ≠ commitment
  different : ∀ sender message challenge, Sender.start key.bytes setup = .ok sender →
    (sender.round1 message).result = .ok challenge →
    let hash := KeyedHash.hash key
    ∃ first second commitments,
      (sender.hashing1 message).inputs .pad hash = [first, second] ∧ first ≠ second ∧
      (sender.round1 message).session.state = .awaitingRound2 commitments ∧
      commitments.pads = ⟨hash first, hash second⟩ ∧
      (commitments.pads.rand0 = commitments.pads.rand1 → hash first = hash second)
  honest : setup.Consistent → ∀ choice tape pads pad,
    (execute key.bytes setup ⟨setup.publicKey⟩ choice tape).result = .ok (pads, pad) →
    let hash := KeyedHash.hash key
    ∃ sender receiver point first second,
      Sender.start key.bytes setup = .ok sender ∧
      Receiver.start key.bytes ⟨setup.publicKey⟩ choice = .ok receiver ∧
      (receiver.round1 tape).1.result = .ok point ∧
      (sender.hashing1 point).inputs .pad hash = [first, second] ∧
      (receiver.hashing1 tape).inputs .pad hash = [if choice then second else first] ∧
      first ≠ second ∧ pads = ⟨hash first, hash second⟩ ∧
      pad = hash (if choice then second else first)

/-- The pads of an admitted setup are hashes of different strings. -/
theorem pads_have_own_preimages [KeyedHash] (key : Octets nonceBytes) {setup : SenderSetup}
    (admitted : setup.Admitted) : PreimageLaw key setup where
  sender_round1 := Sender.run_hashing1
  receiver_round1 := Receiver.run_hashing1
  receiver_round2 := Receiver.run_hashing2
  receiver_round3 := Receiver.run_hashing3
  sized := fun _ => Hashed.sized
  separated := fun _ _ => Hashed.pad_ne_commitment
  different := fun _ _ _ => accepted_pads key admitted
  honest := fun consistent _ _ _ _ => honest_pads key admitted consistent

/-- The setup with the secret three, loaded from its text, and the receiver's scalar five. -/
theorem pads_have_own_preimages_at_three :
    let secret : Scalar := 3
    let publicKey := secret • Point.generator
    let setup : SenderSetup := ⟨secret, publicKey, secret • publicKey⟩
    let key := Octets.zero nonceBytes
    let tape := Tape.ofBytes (encodeScalar 5).bytes
    setup.Admitted ∧ PreimageLaw key setup ∧
      ∃ kept, (execute key.bytes setup ⟨publicKey⟩ true tape).result = .ok kept := by
  intro secret publicKey setup key tape
  have published : publicKey ≠ .identity := by decide +kernel
  have secretKey : setup.secretKey ≠ .identity := by decide +kernel
  have admitted : setup.Admitted :=
    Or.inl ⟨_, Json.load_save (SenderSetup.format_restores published secretKey) .compact⟩
  have drawn : tape.scalar.1 = 5 := Tape.scalar_of_encoded 5
  have sent : tape.scalar.1 • Point.generator + publicKey ≠ .identity := by
    rw [drawn]
    decide +kernel
  have consistent : setup.Consistent := ⟨rfl, rfl⟩
  have succeeds := (@execute_succeeds_iff _ key setup tape true sent).mpr
    (Exchange.agrees_of_consistent (KeyedHash.hash key) true consistent _)
  exact ⟨admitted, pads_have_own_preimages key admitted, succeeds⟩

end ObliviousTransfer
