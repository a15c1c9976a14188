import ObliviousTransfer.Bytes.Endian
import ObliviousTransfer.Curve.Multiple

/-!
Points and scalars as bytes. A point is written as a tag for the parity of `y`
and the coordinate `x`; readers also take both coordinates in full, and `x`
alone for the even `y`. A scalar is 32 bytes, highest first, below the order.
-/

namespace ObliviousTransfer

inductive EncodingFault where
  | pointForm
  | offCurve
  | identityPoint
  | scalarLength
  | scalarRange
  deriving DecidableEq

def EncodingFault.message : EncodingFault → String
  | .pointForm => "elliptic curve point encoding error"
  | .offCurve => "Invalid curve point"
  | .identityPoint => "Identity point"
  | .scalarLength => "Invalid scalar length"
  | .scalarRange => "Scalar out of range"

def pointBytes : Nat := 33

def scalarBytes : Nat := 32

def encodeScalar (scalar : Scalar) : Octets scalarBytes := Octets.ofNat scalarBytes scalar.val

def decodeScalar (bytes : List Byte) : Except EncodingFault Scalar :=
  if bytes.length = scalarBytes then
    if inRange : bigEndianValue bytes < groupOrder then .ok ⟨bigEndianValue bytes, inRange⟩
    else .error .scalarRange
  else .error .scalarLength

/-- The leading 32 bytes of a hash as a number, reduced modulo the order. A shorter hash counts as
the low end of the number. -/
def scalarOfHash (hash : List Byte) : Scalar :=
  Scalar.reduce (bigEndianValue (hash.take scalarBytes))

def encodeCoordinate (coordinate : Coordinate) : Octets 32 := Octets.ofNat 32 coordinate.val

def decodeCoordinate (bytes : List Byte) : Except EncodingFault Coordinate :=
  if inRange : bigEndianValue bytes < fieldPrime then .ok ⟨bigEndianValue bytes, inRange⟩
  else .error .offCurve

def Point.ofX? (x : Coordinate) (odd : Bool) : Option Point :=
  let root := Modular.squareRoot (x * x * x + 7)
  if (root.val % 2 == 1) = odd then Point.ofCoordinates? x root else Point.ofCoordinates? x (-root)

def parityTag (odd : Bool) : Byte := if odd then 3 else 2

/-- A tag for the parity of `y`, then `x`; the identity is written as zeros. -/
def encodePoint (point : Point) : Octets pointBytes :=
  match point with
  | .identity => Octets.zero pointBytes
  | .affine x _ _ =>
      (⟨[parityTag point.oddY], rfl⟩ : Octets 1).append (encodeCoordinate x)

def decodeCompressed (odd : Bool) (body : List Byte) : Except EncodingFault Point := do
  if body.length = 32 then
    let x ← decodeCoordinate body
    (Point.ofX? x odd).elim (.error .offCurve) .ok
  else .error .pointForm

def decodeUncompressed (body : List Byte) : Except EncodingFault Point := do
  if body.length = 64 then
    let x ← decodeCoordinate (body.take 32)
    let y ← decodeCoordinate (body.drop 32)
    (Point.ofCoordinates? x y).elim (.error .offCurve) .ok
  else .error .pointForm

/-- Reads a point in any of its forms. The identity has a form of its own, a lone zero byte, and is
refused. -/
def decodePoint : List Byte → Except EncodingFault Point
  | [] => .error .pointForm
  | tag :: body =>
      if tag = 0 then
        if body = [] then .error .identityPoint else .error .pointForm
      else if tag = 2 then decodeCompressed false body
      else if tag = 3 then decodeCompressed true body
      else if tag = 4 then decodeUncompressed body
      else if tag = 5 then decodeCompressed false body
      else .error .pointForm

/-- The coordinate `x` as bytes, zeros for the identity. -/
def Point.xBytes (point : Point) : Octets 32 := encodeCoordinate point.xCoordinate

def Point.xScalar (point : Point) : Scalar := Scalar.reduce point.xCoordinate.val

end ObliviousTransfer
