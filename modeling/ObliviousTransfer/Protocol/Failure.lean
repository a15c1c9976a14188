import ObliviousTransfer.Bytes.Hex
import ObliviousTransfer.Curve.Encoding
import ObliviousTransfer.Json.Fault

/-!
Why an operation of the library fails, and the text that says so.
-/

namespace ObliviousTransfer

/-- How far a session has come. A session that is done has finished or was given up. -/
inductive Phase where
  | awaitingRound1
  | awaitingRound2
  | awaitingRound3
  | done
  deriving DecidableEq

def Phase.name : Phase → String
  | .awaitingRound1 => "AwaitingRound1"
  | .awaitingRound2 => "AwaitingRound2"
  | .awaitingRound3 => "AwaitingRound3"
  | .done => "Done"

/-- The rounds of an execution, each by the party that runs it. -/
inductive Round where
  | sender1
  | sender2
  | receiver1
  | receiver2
  | receiver3
  deriving DecidableEq

def Round.name : Round → String
  | .sender1 => "sender round1"
  | .sender2 => "sender round2"
  | .receiver1 => "receiver round1"
  | .receiver2 => "receiver round2"
  | .receiver3 => "receiver round3"

inductive WirePart where
  | setupMessage
  | publicKey
  | point
  | challenge
  | response
  | decommitment
  | proof
  deriving DecidableEq

def WirePart.name : WirePart → String
  | .setupMessage => "setup message"
  | .publicKey => "public key"
  | .point => "round 1 point"
  | .challenge => "challenge"
  | .response => "response"
  | .decommitment => "decommitment"
  | .proof => "proof"

inductive FieldFault where
  | hex (fault : Hex.Fault)
  | arrayLength
  | encoding (fault : EncodingFault)
  deriving DecidableEq

inductive Failure where
  | proofInvalid
  | invalidResponse
  | decommitmentMismatch
  | unreadable (fault : Json.Fault FieldFault)
  | encoding (fault : EncodingFault)
  | wireLength (part : WirePart) (expected actual : Nat)
  | nonceLength (actual : Nat)
  | unexpectedRound (round : Round) (phase : Phase)
  | signatureLength (actual : Nat)
  | signatureEncoding (fault : EncodingFault)
  deriving DecidableEq

/-- The kinds of failure that a caller can tell apart without reading the text. -/
inductive FailureKind where
  | proofInvalid
  | invalidResponse
  | decommitmentMismatch
  | serialization
  | deserialization
  | invalidNonceLength
  | unexpectedRound
  | invalidSignature
  deriving DecidableEq

def Failure.kind : Failure → FailureKind
  | .proofInvalid => .proofInvalid
  | .invalidResponse => .invalidResponse
  | .decommitmentMismatch => .decommitmentMismatch
  | .unreadable _ => .serialization
  | .encoding _ | .wireLength _ _ _ => .deserialization
  | .nonceLength _ => .invalidNonceLength
  | .unexpectedRound _ _ => .unexpectedRound
  | .signatureLength _ | .signatureEncoding _ => .invalidSignature

def nonceBytes : Nat := 32

def signatureBytes : Nat := pointBytes + scalarBytes

def encodingMessage (fault : EncodingFault) : String := "Deserialization error: " ++ fault.message

def lengthMessage (expected actual : Nat) : String :=
  "expected " ++ toString expected ++ ", got " ++ toString actual

def FieldFault.message : FieldFault → String
  | .hex fault => fault.message
  | .arrayLength => "Invalid byte array length"
  | .encoding fault => encodingMessage fault

def readingMessage (fault : Json.Fault FieldFault) : String := fault.message FieldFault.message

def Failure.message : Failure → String
  | .proofInvalid => "Schnorr proof of the setup key failed to verify"
  | .invalidResponse => "Invalid response from OT receiver"
  | .decommitmentMismatch => "Incorrect decommitment from OT sender"
  | .unreadable fault => "Serialization error: " ++ readingMessage fault
  | .encoding fault => encodingMessage fault
  | .wireLength part expected actual =>
      "Deserialization error: Invalid " ++ part.name ++ " length: " ++ lengthMessage expected actual
  | .nonceLength actual => "Invalid nonce length: " ++ lengthMessage nonceBytes actual
  | .unexpectedRound round phase => "Unexpected call to " ++ round.name ++ " while " ++ phase.name
  | .signatureLength actual =>
      "Invalid signature: expected " ++ toString signatureBytes ++ " bytes, got " ++ toString actual
  | .signatureEncoding fault => "Invalid signature: " ++ encodingMessage fault

end ObliviousTransfer
