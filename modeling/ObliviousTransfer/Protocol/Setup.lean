import ObliviousTransfer.Protocol.Knowledge

/-!
The setup that two parties go through once. The sender publishes `B = b • G`
with a proof that it knows `b`; both keep a record, which any number of
executions can use.
-/

namespace ObliviousTransfer

/-- What the sender keeps: its secret `b`, its public key and `b` times that key. -/
@[ext]
structure SenderSetup where
  secret : Scalar
  publicKey : Point
  secretKey : Point
  deriving DecidableEq

@[ext]
structure ReceiverSetup where
  publicKey : Point
  deriving DecidableEq

namespace SenderSetup

def format : Json.Format FieldFault SenderSetup :=
  (Json.Format.record "SenderSetup"
    (.field "b" Json.scalar
      (.field "public_key" Json.point (.field "b_public_key" Json.point .nil)))).transport
    (fun (secret, publicKey, secretKey, _) => ⟨secret, publicKey, secretKey⟩)
    (fun setup => (setup.secret, setup.publicKey, setup.secretKey, ()))

def describe (setup : SenderSetup) : String :=
  "SenderSetup \x7b public_key: " ++
    Text.quotedText (Hex.encode (encodePoint setup.publicKey).bytes) ++ ", .. \x7d"

end SenderSetup

namespace ReceiverSetup

def format : Json.Format FieldFault ReceiverSetup :=
  (Json.Format.record "ReceiverSetup" (.field "public_key" Json.point .nil)).transport
    (fun (publicKey, _) => ⟨publicKey⟩) (fun setup => (setup.publicKey, ()))

end ReceiverSetup

namespace Setup

def transcript : Transcript := Transcript.new (utf8 "rot-core/random-ot/setup")

def createWith (b k : Scalar) (context : List Byte) : SetupMessage × SenderSetup :=
  let publicKey := b • Point.generator
  let (proof, _) := KeyProof.proveWith k transcript publicKey b context
  (⟨encodePoint publicKey, proof⟩, ⟨b, publicKey, b • publicKey⟩)

/-- The sender's side. The context binds the proof to what surrounds it. -/
def create (context : List Byte) : Action (SetupMessage × SenderSetup) :=
  Action.within .setupSend do
    let b ← Action.draw Tape.scalar
    let k ← Action.draw Tape.scalar
    let (message, setup) := createWith b k context
    Action.record (.setupCreated message.publicKey)
    return (message, setup)

/-- The receiver's side. Whatever is wrong with the message is an invalid proof. -/
def accept (context : List Byte) (message : SetupMessage) :
    Logged (Except Failure ReceiverSetup) :=
  match decodePoint message.publicKey.bytes with
  | .error fault => ⟨.error .proofInvalid, [⟨[.setupReceive], .setupKeyRefused fault⟩]⟩
  | .ok publicKey =>
      if (message.proof.verify transcript publicKey context).1 then
        ⟨.ok ⟨publicKey⟩, [⟨[.setupReceive], .setupAccepted message.publicKey⟩]⟩
      else ⟨.error .proofInvalid, [⟨[.setupReceive], .setupProofRefused⟩]⟩

end Setup

end ObliviousTransfer
