import ObliviousTransfer.Curve.Modular

/-!
The curve `y² = x³ + 7` over the integers modulo `fieldPrime`, with the chord
and tangent rule as addition. Every point carries its equation, so a pair of
coordinates that is off the curve is no point at all.
-/

namespace ObliviousTransfer

attribute [local instance (5000)] Zero.ofOfNat0

def fieldPrime : Nat := 0xfffffffffffffffffffffffffffffffffffffffffffffffffffffffefffffc2f

/-- The number of points, and the order of every point but the identity. -/
def groupOrder : Nat := 0xfffffffffffffffffffffffffffffffebaaedce6af48a03bbfd25e8cd0364141

instance : NeZero fieldPrime := ⟨by decide⟩

instance : NeZero groupOrder := ⟨by decide⟩

abbrev Coordinate := Fin fieldPrime

abbrev Scalar := Fin groupOrder

def Scalar.reduce (value : Nat) : Scalar := Fin.ofNat groupOrder value

def OnCurve (x y : Coordinate) : Prop := y * y = x * x * x + 7

instance (x y : Coordinate) : Decidable (OnCurve x y) := inferInstanceAs (Decidable (_ = _))

inductive Point where
  | identity
  | affine (x y : Coordinate) (onCurve : OnCurve x y)
  deriving DecidableEq

namespace Point

def ofCoordinates? (x y : Coordinate) : Option Point :=
  if onCurve : OnCurve x y then some (affine x y onCurve) else none

theorem of_coordinates_affine (x y : Coordinate) (onCurve : OnCurve x y) :
    ofCoordinates? x y = some (affine x y onCurve) := by
  simp [ofCoordinates?, onCurve]

/-- The point with coordinates that a formula of the group law gives. The formulas never leave
the curve, so the identity stands in for no pair of coordinates that arises. -/
def ofFormula (x y : Coordinate) : Point := (ofCoordinates? x y).getD identity

def xCoordinate : Point → Coordinate
  | identity => 0
  | affine x _ _ => x

def yCoordinate : Point → Coordinate
  | identity => 0
  | affine _ y _ => y

def oddY (point : Point) : Bool := point.yCoordinate.val % 2 == 1

theorem on_curve_negate {x y : Coordinate} (onCurve : OnCurve x y) : OnCurve x (-y) := by
  unfold OnCurve at *
  grind

def negate : Point → Point
  | identity => identity
  | affine x y onCurve => affine x (-y) (on_curve_negate onCurve)

/-- The third intersection of the line with the given slope, reflected in the axis. -/
def alongLine (slope x₁ y₁ x₂ : Coordinate) : Point :=
  let x := slope * slope - x₁ - x₂
  ofFormula x (slope * (x₁ - x) - y₁)

def add : Point → Point → Point
  | identity, right => right
  | left, identity => left
  | affine x₁ y₁ _, affine x₂ y₂ _ =>
      if x₁ = x₂ then
        if y₁ = -y₂ then identity
        else alongLine (3 * (x₁ * x₁) * Modular.inverse (2 * y₁)) x₁ y₁ x₂
      else alongLine ((y₂ - y₁) * Modular.inverse (x₂ - x₁)) x₁ y₁ x₂

instance : Add Point := ⟨add⟩

instance : Neg Point := ⟨negate⟩

instance : Sub Point := ⟨fun left right => left + -right⟩

def generator : Point :=
  affine 0x79be667ef9dcbbac55a06295ce870b07029bfcdb2dce28d959f2815b16f81798
    0x483ada7726a3c4655da4fbfc0e1108a8fd17b448a68554199c47d08ffb10d4b8 (by decide)

end Point

end ObliviousTransfer
