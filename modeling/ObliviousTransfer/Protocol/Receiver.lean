import ObliviousTransfer.Protocol.Setup

/-!
The receiver of one execution. For a random `a` it sends `a • G`, with the
public key `B` added if its choice is one, and keeps the hash of `a • B` as its
pad. It answers the challenge, and gives the pad away only if the openings fit
both the challenge and the pad.
-/

namespace ObliviousTransfer

inductive ReceiverState where
  | awaitingRound1
  | awaitingRound2 (pad : Pad)
  | awaitingRound3 (pad challenge hashed : Pad)
  | done
  deriving DecidableEq

def ReceiverState.phase : ReceiverState → Phase
  | .awaitingRound1 => .awaitingRound1
  | .awaitingRound2 _ => .awaitingRound2
  | .awaitingRound3 _ _ _ => .awaitingRound3
  | .done => .done

structure Receiver where
  publicKey : Point
  oracle : Oracle
  choice : Bool
  state : ReceiverState
  deriving DecidableEq

namespace Receiver

def start (nonce : List Byte) (setup : ReceiverSetup) (choice : Bool) : Except Failure Receiver :=
  (Oracle.keyed nonce).map fun oracle => ⟨setup.publicKey, oracle, choice, .awaitingRound1⟩

def phase (receiver : Receiver) : Phase := receiver.state.phase

def outOfPhase {Value : Type} (receiver : Receiver) (round : Round) : Step Receiver Value :=
  ⟨receiver, .error (.unexpectedRound round receiver.phase), []⟩

def sentPoint (publicKey : Point) (choice : Bool) (a : Scalar) : Point :=
  if choice then a • Point.generator + publicKey else a • Point.generator

def round1With [KeyedHash] (receiver : Receiver) (a : Scalar) : Step Receiver PointMessage :=
  let pad := receiver.oracle.hash (encodePoint (a • receiver.publicKey)).bytes
  ⟨{ receiver with state := .awaitingRound2 pad },
    .ok ⟨encodePoint (sentPoint receiver.publicKey receiver.choice a)⟩,
    [⟨[.round1], .roundCompleted .receiver1⟩]⟩

def round1 [KeyedHash] (receiver : Receiver) (tape : Tape) : Step Receiver PointMessage × Tape :=
  match receiver.state with
  | .awaitingRound1 =>
      let (a, rest) := tape.scalar
      (receiver.round1With a, rest)
  | _ => (receiver.outOfPhase .receiver1, tape)

/-- Answers the challenge with the pad hashed twice, plus the challenge if the choice is one. -/
def round2 [KeyedHash] (receiver : Receiver) (message : ChallengeMessage) :
    Step Receiver ResponseMessage :=
  match receiver.state with
  | .awaitingRound2 pad =>
      let hash := receiver.oracle.hash
      let hashed := hash (hash pad.bytes).bytes
      let response := if receiver.choice then hashed.xor message.challenge else hashed
      ⟨{ receiver with state := .awaitingRound3 pad message.challenge hashed }, .ok ⟨response⟩,
        [⟨[.round2], .roundCompleted .receiver2⟩]⟩
  | _ => receiver.outOfPhase .receiver2

def opens (hash : List Byte → Pad) (choice : Bool) (challenge hashed : Pad)
    (opening : OpeningMessage) : Bool :=
  let hashed0 := hash opening.decommit0.bytes
  let hashed1 := hash opening.decommit1.bytes
  decide (challenge = hashed0.xor hashed1) &&
    decide ((if choice then hashed1 else hashed0) = hashed)

def round3 [KeyedHash] (receiver : Receiver) (message : OpeningMessage) : Step Receiver Pad :=
  match receiver.state with
  | .awaitingRound3 pad challenge hashed =>
      let closed : Receiver := { receiver with state := .done }
      if opens receiver.oracle.hash receiver.choice challenge hashed message then
        ⟨closed, .ok pad, [⟨[.round3], .roundCompleted .receiver3⟩]⟩
      else ⟨closed, .error .decommitmentMismatch, [⟨[.round3], .openingRefused⟩]⟩
  | _ => receiver.outOfPhase .receiver3

end Receiver

end ObliviousTransfer
