import ObliviousTransfer.Protocol.Failure

/-!
The events that operations record. An event may carry a public key, a nonce or
the reason why a public key was refused, and has no place for anything else.
-/

namespace ObliviousTransfer

inductive Level where
  | debug
  | info
  | warn
  deriving DecidableEq

def Level.name : Level → String
  | .debug => "DEBUG"
  | .info => "INFO"
  | .warn => "WARN"

inductive Span where
  | setupSend
  | setupReceive
  | round1
  | round2
  | round3
  | execute (nonce : List Byte)
  deriving DecidableEq

def Span.name : Span → String
  | .setupSend => "setup_send"
  | .setupReceive => "setup_receive"
  | .round1 => "round1"
  | .round2 => "round2"
  | .round3 => "round3"
  | .execute _ => "execute"

def Span.fields : Span → List (String × String)
  | .execute nonce => [("nonce", Hex.encodeString nonce)]
  | _ => []

def Round.span : Round → Span
  | .sender1 | .receiver1 => .round1
  | .sender2 | .receiver2 => .round2
  | .receiver3 => .round3

inductive Notice where
  | setupCreated (publicKey : Octets pointBytes)
  | setupAccepted (publicKey : Octets pointBytes)
  | setupKeyRefused (fault : EncodingFault)
  | setupProofRefused
  | roundCompleted (round : Round)
  | responseRefused
  | openingRefused
  | executionCompleted
  deriving DecidableEq

def Notice.level : Notice → Level
  | .setupCreated _ | .setupAccepted _ => .info
  | .setupKeyRefused _ | .setupProofRefused | .responseRefused | .openingRefused => .warn
  | .roundCompleted _ | .executionCompleted => .debug

def Notice.message : Notice → String
  | .setupCreated _ => "Random OT setup created"
  | .setupAccepted _ => "Random OT setup accepted"
  | .setupKeyRefused _ => "Setup public key failed to decode"
  | .setupProofRefused => "Setup proof failed to verify"
  | .roundCompleted .sender1 => "Sender round 1 completed"
  | .roundCompleted .sender2 => "Sender round 2 completed"
  | .roundCompleted .receiver1 => "Receiver round 1 completed"
  | .roundCompleted .receiver2 => "Receiver round 2 completed"
  | .roundCompleted .receiver3 => "Receiver round 3 completed"
  | .responseRefused => "Receiver response does not match commitment"
  | .openingRefused => "Sender decommitment does not match challenge"
  | .executionCompleted => "Random OT execution completed"

def Notice.fields : Notice → List (String × String)
  | .setupCreated publicKey => [("public_key", Hex.encodeString publicKey.bytes)]
  | .setupAccepted publicKey => [("public_key", Hex.encodeString publicKey.bytes)]
  | .setupKeyRefused fault => [("error", encodingMessage fault)]
  | _ => []

/-- A notice inside spans, the outermost first. -/
structure Event where
  spans : List Span
  notice : Notice
  deriving DecidableEq

def Event.within (span : Span) (event : Event) : Event :=
  { event with spans := span :: event.spans }

end ObliviousTransfer
