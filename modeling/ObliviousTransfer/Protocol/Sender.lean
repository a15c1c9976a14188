import ObliviousTransfer.Protocol.Setup

/-!
The sender of one execution. From the receiver's point `P` it derives two pads,
the hashes of `b • P` and of `b • P - b • B`, and commits to both by hashing
them; it opens the commitments to a receiver that answers the challenge.
-/

namespace ObliviousTransfer

structure PadPair where
  rand0 : Pad
  rand1 : Pad
  deriving DecidableEq

def PadPair.pick (pads : PadPair) (choice : Bool) : Pad := if choice then pads.rand1 else pads.rand0

/-- What round 1 fixes and round 2 opens. -/
structure Commitments where
  pads : PadPair
  opening : OpeningMessage
  /-- The hash of the first opening, the only response that is accepted. -/
  expected : Pad
  challenge : Pad
  deriving DecidableEq

def Commitments.ofPoint (hash : List Byte → Pad) (setup : SenderSetup) (point : Point) :
    Commitments :=
  let shared := setup.secret • point
  let rand0 := hash (encodePoint shared).bytes
  let rand1 := hash (encodePoint (shared - setup.secretKey)).bytes
  let decommit0 := hash rand0.bytes
  let decommit1 := hash rand1.bytes
  let expected := hash decommit0.bytes
  ⟨⟨rand0, rand1⟩, ⟨decommit0, decommit1⟩, expected, (hash decommit1.bytes).xor expected⟩

inductive SenderState where
  | awaitingRound1
  | awaitingRound2 (commitments : Commitments)
  | done
  deriving DecidableEq

def SenderState.phase : SenderState → Phase
  | .awaitingRound1 => .awaitingRound1
  | .awaitingRound2 _ => .awaitingRound2
  | .done => .done

structure Sender where
  setup : SenderSetup
  oracle : Oracle
  state : SenderState
  deriving DecidableEq

namespace Sender

def start (nonce : List Byte) (setup : SenderSetup) : Except Failure Sender :=
  (Oracle.keyed nonce).map fun oracle => ⟨setup, oracle, .awaitingRound1⟩

def phase (sender : Sender) : Phase := sender.state.phase

def outOfPhase {Value : Type} (sender : Sender) (round : Round) : Step Sender Value :=
  ⟨sender, .error (.unexpectedRound round sender.phase), []⟩

def finish {Value : Type} (sender : Sender) (result : Except Failure Value)
    (events : List Event) : Step Sender Value :=
  ⟨{ sender with state := .done }, result, events⟩

def round1 [KeyedHash] (sender : Sender) (message : PointMessage) : Step Sender ChallengeMessage :=
  match sender.state with
  | .awaitingRound1 =>
      match decodePoint message.point.bytes with
      | .error fault => sender.finish (.error (.encoding fault)) []
      | .ok point =>
          let commitments := Commitments.ofPoint sender.oracle.hash sender.setup point
          ⟨{ sender with state := .awaitingRound2 commitments }, .ok ⟨commitments.challenge⟩,
            [⟨[.round1], .roundCompleted .sender1⟩]⟩
  | _ => sender.outOfPhase .sender1

def round2 (sender : Sender) (message : ResponseMessage) :
    Step Sender (OpeningMessage × PadPair) :=
  match sender.state with
  | .awaitingRound2 commitments =>
      if message.response = commitments.expected then
        sender.finish (.ok (commitments.opening, commitments.pads))
          [⟨[.round2], .roundCompleted .sender2⟩]
      else sender.finish (.error .invalidResponse) [⟨[.round2], .responseRefused⟩]
  | _ => sender.outOfPhase .sender2

end Sender

end ObliviousTransfer
