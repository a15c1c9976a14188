import ObliviousTransfer.Hash.Transcript
import ObliviousTransfer.Protocol.Action
import ObliviousTransfer.Protocol.Message

/-!
Proving that one knows the secret of a public key `X = x • G`. The prover
commits to `T = k • G`, draws a challenge `c` from the transcript after the
context, the key and the commitment have been added, and answers `k + c * x`.
The verifier does the same with its own transcript and compares
`z • G` with `T + c • X`.
-/

namespace ObliviousTransfer

namespace KeyProof

def contextLabel : List Byte := utf8 "dlog-proof/context"
def publicKeyLabel : List Byte := utf8 "dlog-proof/public-key"
def commitmentLabel : List Byte := utf8 "dlog-proof/commitment"
def challengeLabel : List Byte := utf8 "dlog-proof/challenge"

def challenge (transcript : Transcript) (publicKey : Point) (commitment : Octets pointBytes)
    (context : List Byte) : Scalar × Transcript :=
  let fed := transcript.append contextLabel context
  let fed := fed.append publicKeyLabel (encodePoint publicKey).bytes
  let fed := fed.append commitmentLabel commitment.bytes
  let (bytes, rest) := fed.challenge challengeLabel scalarBytes
  (Scalar.reduce (bigEndianValue bytes), rest)

def proveWith (k : Scalar) (transcript : Transcript) (publicKey : Point) (secret : Scalar)
    (context : List Byte) : KeyProof × Transcript :=
  let commitment := encodePoint (k • Point.generator)
  let (c, rest) := challenge transcript publicKey commitment context
  (⟨commitment, encodeScalar (k + c * secret)⟩, rest)

def prove (transcript : Transcript) (publicKey : Point) (secret : Scalar) (context : List Byte)
    (tape : Tape) : (KeyProof × Transcript) × Tape :=
  let (k, rest) := tape.scalar
  (proveWith k transcript publicKey secret context, rest)

/-- A proof whose parts cannot be read is refused before the transcript is touched. -/
def verify (proof : KeyProof) (transcript : Transcript) (publicKey : Point)
    (context : List Byte) : Bool × Transcript :=
  match decodePoint proof.commitment.bytes, decodeScalar proof.response.bytes with
  | .ok commitment, .ok response =>
      let (c, rest) := challenge transcript publicKey proof.commitment context
      (decide (response • Point.generator = commitment + c • publicKey), rest)
  | _, _ => (false, transcript)

end KeyProof

end ObliviousTransfer
