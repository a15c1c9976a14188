import ObliviousTransfer.Protocol.Message

/-!
Signatures that keep the whole nonce point `R`, so that checking one compares
points. Their compact form has the coordinate `x` of the point, the smaller of
`s` and `-s`, and the parity that gives the point back.
-/

namespace ObliviousTransfer

@[ext]
structure Signature where
  r : Point
  s : Scalar
  deriving DecidableEq

namespace Signature

/-- Checks `s⁻¹ • (m • G + r • X) = R` for the key `X`, where `m` is the hash as a scalar and `r` is
the coordinate `x` of `R` modulo the order. -/
def verify (signature : Signature) (publicKey : Point) (hash : List Byte) : Bool :=
  if signature.s = 0 ∨ signature.r = .identity ∨ publicKey = .identity then false
  else
    let candidate := Modular.inverse signature.s •
      (scalarOfHash hash • Point.generator + signature.r.xScalar • publicKey)
    decide (candidate = signature.r)

def isHigh (scalar : Scalar) : Bool := (groupOrder - 1) / 2 < scalar.val

def lowS (signature : Signature) : Scalar :=
  if isHigh signature.s then -signature.s else signature.s

/-- The parity of `y`, turned over if `s` was negated. -/
def recoveryByte (signature : Signature) : Byte :=
  if signature.r.oddY ^^ isHigh signature.s then 1 else 0

def compactBytes : Nat := 65

def compact (signature : Signature) : Octets compactBytes :=
  (signature.r.xBytes.append (encodeScalar signature.lowS)).append
    (⟨[signature.recoveryByte], rfl⟩ : Octets 1)

def encode (signature : Signature) : Octets signatureBytes :=
  (encodePoint signature.r).append (encodeScalar signature.s)

def decode (bytes : List Byte) : Except Failure Signature :=
  if bytes.length = signatureBytes then do
    let r ← (decodePoint (bytes.take pointBytes)).mapError .signatureEncoding
    let s ← (decodeScalar (bytes.drop pointBytes)).mapError .signatureEncoding
    .ok ⟨r, s⟩
  else .error (.signatureLength bytes.length)

def format : Json.Format FieldFault Signature :=
  (Json.Format.record "Signature"
    (.field "r" Json.point (.field "s" Json.scalar .nil))).transport
    (fun (r, s, _) => ⟨r, s⟩) (fun signature => (signature.r, signature.s, ()))

end Signature

end ObliviousTransfer
