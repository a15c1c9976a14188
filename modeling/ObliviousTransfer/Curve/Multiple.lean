import ObliviousTransfer.Curve.Point

/-!
Multiples of a point. Doubling and adding run on triples `(x, y, z)` that stand
for the point `(x / z², y / z³)`, or for the identity when `z` is zero, so that
one inversion at the end is enough.
-/

namespace ObliviousTransfer

structure Triple where
  x : Coordinate
  y : Coordinate
  z : Coordinate
  deriving DecidableEq

namespace Triple

def identity : Triple := ⟨1, 1, 0⟩

def ofCoordinates (x y : Coordinate) : Triple := ⟨x, y, 1⟩

def toPoint (triple : Triple) : Point :=
  if triple.z = 0 then .identity
  else
    let inverse := Modular.inverse triple.z
    let square := inverse * inverse
    Point.ofFormula (triple.x * square) (triple.y * (square * inverse))

def double (triple : Triple) : Triple :=
  let squareX := triple.x * triple.x
  let squareY := triple.y * triple.y
  let fourth := squareY * squareY
  let sum := triple.x + squareY
  let half := sum * sum - squareX - fourth
  let cross := half + half
  let slope := squareX + squareX + squareX
  let x := slope * slope - cross - cross
  let product := triple.y * triple.z
  ⟨x, slope * (cross - x) - 8 * fourth, product + product⟩

def addAffine (triple : Triple) (x₂ y₂ : Coordinate) : Triple :=
  if triple.z = 0 then ofCoordinates x₂ y₂
  else
    let squareZ := triple.z * triple.z
    let run := x₂ * squareZ - triple.x
    let rise := y₂ * (squareZ * triple.z) - triple.y
    if run = 0 then
      if rise = 0 then triple.double else identity
    else
      let squareRun := run * run
      let cubeRun := squareRun * run
      let base := triple.x * squareRun
      let x := rise * rise - cubeRun - base - base
      ⟨x, rise * (base - x) - triple.y * cubeRun, triple.z * run⟩

end Triple

/-- A point added to itself as often as the scalar says. -/
def Point.multiple (scalar : Scalar) : Point → Point
  | .identity => .identity
  | .affine x y _ =>
      ((Modular.binaryDigits Modular.exponentBits scalar.val).foldl
        (fun sum digit => if digit then sum.double.addAffine x y else sum.double)
        Triple.identity).toPoint

instance : SMul Scalar Point := ⟨Point.multiple⟩

end ObliviousTransfer
