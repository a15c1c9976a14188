import ObliviousTransfer.Protocol.Oracle
import ObliviousTransfer.Json.Format

/-!
The messages of the setup and of the five rounds. Each has a byte form of fixed
length, its fields one after the other, and a JSON form with a string of
hexadecimal digits for each field.
-/

namespace ObliviousTransfer

def receive (part : WirePart) (size : Nat) (bytes : List Byte) : Except Failure (Octets size) :=
  match Octets.ofList? size bytes with
  | some value => .ok value
  | none => .error (.wireLength part size bytes.length)

namespace Json

def load {Value : Type} (format : Format FieldFault Value) (text : String) : Except Failure Value :=
  (format.decode text.toList).mapError .unreadable

def save {Value : Type} (format : Format FieldFault Value) (layout : Layout) (value : Value) :
    String :=
  String.ofList (format.encode layout value)

def decodeHex {Value : Type} (check : List Byte → Except FieldFault Value) (text : List Char) :
    Except FieldFault Value :=
  match Hex.decode text with
  | .ok bytes => check bytes
  | .error fault => .error (.hex fault)

def checkOctets (size : Nat) (bytes : List Byte) : Except FieldFault (Octets size) :=
  match Octets.ofList? size bytes with
  | some value => .ok value
  | none => .error .arrayLength

def octets (size : Nat) : Format FieldFault (Octets size) :=
  .text (fun value => Hex.encode value.bytes) (decodeHex (checkOctets size))

def scalar : Format FieldFault Scalar :=
  .text (fun value => Hex.encode (encodeScalar value).bytes)
    (decodeHex fun bytes => (decodeScalar bytes).mapError .encoding)

def point : Format FieldFault Point :=
  .text (fun value => Hex.encode (encodePoint value).bytes)
    (decodeHex fun bytes => (decodePoint bytes).mapError .encoding)

end Json

@[ext]
structure KeyProof where
  commitment : Octets pointBytes
  response : Octets scalarBytes
  deriving DecidableEq

namespace KeyProof

def size : Nat := pointBytes + scalarBytes

def encode (proof : KeyProof) : Octets size := proof.commitment.append proof.response

def ofOctets (bytes : Octets size) : KeyProof :=
  have bytes : Octets (pointBytes + scalarBytes) := bytes
  ⟨bytes.leading, bytes.trailing⟩

def decode (bytes : List Byte) : Except Failure KeyProof :=
  (receive .proof size bytes).map ofOctets

def format : Json.Format FieldFault KeyProof :=
  (Json.Format.record "DLogProof"
    (.field "commitment" (Json.octets pointBytes)
      (.field "response" (Json.octets scalarBytes) .nil))).transport
    (fun (commitment, response, _) => ⟨commitment, response⟩)
    (fun proof => (proof.commitment, proof.response, ()))

end KeyProof

@[ext]
structure SetupMessage where
  publicKey : Octets pointBytes
  proof : KeyProof
  deriving DecidableEq

namespace SetupMessage

def size : Nat := pointBytes + KeyProof.size

def encode (message : SetupMessage) : Octets size := message.publicKey.append message.proof.encode

/-- The whole is checked for its length, and then every part for its own. -/
def decode (bytes : List Byte) : Except Failure SetupMessage := do
  let whole ← receive .setupMessage size bytes
  let publicKey ← receive .publicKey pointBytes (whole.bytes.take pointBytes)
  let proof ← KeyProof.decode (whole.bytes.drop pointBytes)
  return ⟨publicKey, proof⟩

def format : Json.Format FieldFault SetupMessage :=
  (Json.Format.record "SetupMessage"
    (.field "public_key" (Json.octets pointBytes) (.field "proof" KeyProof.format .nil))).transport
    (fun (publicKey, proof, _) => ⟨publicKey, proof⟩)
    (fun message => (message.publicKey, message.proof, ()))

end SetupMessage

/-- The receiver's first message: a point that hides the choice. -/
@[ext]
structure PointMessage where
  point : Octets pointBytes
  deriving DecidableEq

namespace PointMessage

def encode (message : PointMessage) : Octets pointBytes := message.point

def decode (bytes : List Byte) : Except Failure PointMessage :=
  (receive .point pointBytes bytes).map PointMessage.mk

def format : Json.Format FieldFault PointMessage :=
  (Json.Format.record "ReceiverRound1Message"
    (.field "point" (Json.octets pointBytes) .nil)).transport
    (fun (point, _) => ⟨point⟩) (fun message => (message.point, ()))

end PointMessage

/-- The sender's first answer: the sum of the two hashed commitments. -/
@[ext]
structure ChallengeMessage where
  challenge : Pad
  deriving DecidableEq

namespace ChallengeMessage

def encode (message : ChallengeMessage) : Pad := message.challenge

def decode (bytes : List Byte) : Except Failure ChallengeMessage :=
  (receive .challenge padBytes bytes).map ChallengeMessage.mk

def format : Json.Format FieldFault ChallengeMessage :=
  (Json.Format.record "SenderRound1Message"
    (.field "challenge" (Json.octets padBytes) .nil)).transport
    (fun (challenge, _) => ⟨challenge⟩) (fun message => (message.challenge, ()))

end ChallengeMessage

@[ext]
structure ResponseMessage where
  response : Pad
  deriving DecidableEq

namespace ResponseMessage

def encode (message : ResponseMessage) : Pad := message.response

def decode (bytes : List Byte) : Except Failure ResponseMessage :=
  (receive .response padBytes bytes).map ResponseMessage.mk

def format : Json.Format FieldFault ResponseMessage :=
  (Json.Format.record "ReceiverRound2Message"
    (.field "response" (Json.octets padBytes) .nil)).transport
    (fun (response, _) => ⟨response⟩) (fun message => (message.response, ()))

end ResponseMessage

/-- The sender's second answer, which opens the challenge. -/
@[ext]
structure OpeningMessage where
  decommit0 : Pad
  decommit1 : Pad
  deriving DecidableEq

namespace OpeningMessage

def size : Nat := padBytes + padBytes

def encode (message : OpeningMessage) : Octets size := message.decommit0.append message.decommit1

def decode (bytes : List Byte) : Except Failure OpeningMessage := do
  let whole ← receive .decommitment size bytes
  let decommit0 ← receive .decommitment padBytes (whole.bytes.take padBytes)
  let decommit1 ← receive .decommitment padBytes (whole.bytes.drop padBytes)
  return ⟨decommit0, decommit1⟩

def format : Json.Format FieldFault OpeningMessage :=
  (Json.Format.record "SenderRound2Message"
    (.field "decommit0" (Json.octets padBytes)
      (.field "decommit1" (Json.octets padBytes) .nil))).transport
    (fun (decommit0, decommit1, _) => ⟨decommit0, decommit1⟩)
    (fun message => (message.decommit0, message.decommit1, ()))

end OpeningMessage

end ObliviousTransfer
