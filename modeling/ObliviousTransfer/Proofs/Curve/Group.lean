import ObliviousTransfer.Proofs.Curve.Primality

/-!
The points of the curve are a commutative group. The chord and tangent rule
agrees with the addition of points of a Weierstrass curve, which is known to be
one, and the map to that curve loses nothing.
-/

namespace ObliviousTransfer

open ObliviousTransfer.Modular

/-- The curve `y² = x³ + 7` over the field of coordinates. -/
def curve : WeierstrassCurve.Affine (ZMod fieldPrime) := ⟨0, 0, 0, 0, 7⟩

theorem coordinate_inverse (value : Coordinate) :
    residue (inverse value) = (residue value)⁻¹ :=
  residue_inverse (by decide) (by decide) value

theorem coordinate_two_ne_zero : (2 : ZMod fieldPrime) ≠ 0 := by decide

theorem curve_discriminant_ne_zero : curve.Δ ≠ 0 := by
  have value : curve.Δ = -(432 * 49) := by
    simp only [WeierstrassCurve.Δ, WeierstrassCurve.b₂, WeierstrassCurve.b₄,
      WeierstrassCurve.b₆, WeierstrassCurve.b₈, curve]
    norm_num
  rw [value]
  decide

theorem on_curve_iff_nonsingular {x y : Coordinate} :
    OnCurve x y ↔ curve.Nonsingular (residue x) (residue y) := by
  rw [← WeierstrassCurve.Affine.equation_iff_nonsingular_of_Δ_ne_zero curve_discriminant_ne_zero,
    WeierstrassCurve.Affine.equation_iff, OnCurve, ← residue_eq_iff]
  simp only [residue_add, residue_mul, residue_numeral, curve]
  ring_nf

theorem curve_negate (x y : ZMod fieldPrime) : curve.negY x y = -y := by
  simp [WeierstrassCurve.Affine.negY, curve]

theorem curve_add_x (x₁ x₂ slope : ZMod fieldPrime) :
    curve.addX x₁ x₂ slope = slope * slope - x₁ - x₂ := by
  simp only [WeierstrassCurve.Affine.addX, curve]
  ring

theorem curve_add_y (x₁ x₂ y₁ slope : ZMod fieldPrime) :
    curve.addY x₁ x₂ y₁ slope = slope * (x₁ - curve.addX x₁ x₂ slope) - y₁ := by
  simp only [WeierstrassCurve.Affine.addY, WeierstrassCurve.Affine.negAddY, curve_negate]
  ring

theorem curve_tangent (x : ZMod fieldPrime) {y : ZMod fieldPrime}
    (notOpposite : y ≠ curve.negY x y) :
    curve.slope x x y y = 3 * (x * x) * (2 * y)⁻¹ := by
  rw [WeierstrassCurve.Affine.slope_of_Y_ne rfl notOpposite, curve_negate, div_eq_mul_inv]
  simp only [curve, sub_neg_eq_add]
  ring

theorem curve_chord {x₁ x₂ : ZMod fieldPrime} (y₁ y₂ : ZMod fieldPrime) (different : x₁ ≠ x₂) :
    curve.slope x₁ x₂ y₁ y₂ = (y₂ - y₁) * (x₂ - x₁)⁻¹ := by
  rw [WeierstrassCurve.Affine.slope_of_X_ne different, ← div_eq_mul_inv, ← neg_div_neg_eq,
    neg_sub, neg_sub]

namespace Point

def toWeierstrass : Point → curve.Point
  | identity => 0
  | affine x y onCurve => .some (residue x) (residue y) (on_curve_iff_nonsingular.mp onCurve)

theorem to_weierstrass_injective : Function.Injective toWeierstrass := by
  intro left right same
  cases left with
  | identity => cases right with
    | identity => rfl
    | affine => cases same
  | affine x₁ y₁ onCurve₁ => cases right with
    | identity => cases same
    | affine x₂ y₂ onCurve₂ =>
        have coordinates := WeierstrassCurve.Affine.Point.some.inj same
        have sameX : x₁ = x₂ := residue_injective coordinates.1
        have sameY : y₁ = y₂ := residue_injective coordinates.2
        subst sameX sameY
        rfl

theorem to_weierstrass_of_formula {x y : Coordinate} {targetX targetY : ZMod fieldPrime}
    (nonsingular : curve.Nonsingular targetX targetY)
    (sameX : residue x = targetX) (sameY : residue y = targetY) :
    (ofFormula x y).toWeierstrass = .some targetX targetY nonsingular := by
  subst sameX sameY
  rw [ofFormula, of_coordinates_affine x y (on_curve_iff_nonsingular.mpr nonsingular)]
  rfl

theorem to_weierstrass_along_line {slope x₁ y₁ x₂ : Coordinate} {target : ZMod fieldPrime}
    (sameSlope : residue slope = target)
    (nonsingular : curve.Nonsingular (curve.addX (residue x₁) (residue x₂) target)
      (curve.addY (residue x₁) (residue x₂) (residue y₁) target)) :
    (alongLine slope x₁ y₁ x₂).toWeierstrass = .some _ _ nonsingular := by
  subst sameSlope
  apply to_weierstrass_of_formula
  · simp only [residue_sub, residue_mul, curve_add_x]
  · simp only [residue_sub, residue_mul, curve_add_y, curve_add_x]

theorem to_weierstrass_negate (point : Point) : (-point).toWeierstrass = -point.toWeierstrass := by
  cases point with
  | identity => rfl
  | affine x y onCurve =>
      change WeierstrassCurve.Affine.Point.some _ _ _ = -WeierstrassCurve.Affine.Point.some _ _ _
      rw [WeierstrassCurve.Affine.Point.neg_some]
      congr 1
      rw [residue_neg, curve_negate]

theorem to_weierstrass_add (left right : Point) :
    (left + right).toWeierstrass = left.toWeierstrass + right.toWeierstrass := by
  cases left with
  | identity => exact (zero_add right.toWeierstrass).symm
  | affine x₁ y₁ onCurve₁ => cases right with
    | identity => exact (add_zero (affine x₁ y₁ onCurve₁).toWeierstrass).symm
    | affine x₂ y₂ onCurve₂ =>
        change (add (affine x₁ y₁ onCurve₁) (affine x₂ y₂ onCurve₂)).toWeierstrass =
          WeierstrassCurve.Affine.Point.some _ _ _ + WeierstrassCurve.Affine.Point.some _ _ _
        have opposite : y₁ = -y₂ ↔ residue y₁ = curve.negY (residue x₂) (residue y₂) := by
          rw [curve_negate, ← residue_neg, residue_eq_iff]
        simp only [add]
        split_ifs with sameX oppositeY
        · rw [WeierstrassCurve.Affine.Point.add_of_Y_eq (congrArg residue sameX)
            (opposite.mp oppositeY)]
          rfl
        · subst sameX
          have notOpposite := mt opposite.mpr oppositeY
          have sameY := WeierstrassCurve.Affine.Y_eq_of_Y_ne
            (on_curve_iff_nonsingular.mp onCurve₁).1 (on_curve_iff_nonsingular.mp onCurve₂).1
            rfl notOpposite
          have same : y₁ = y₂ := residue_injective sameY
          subst same
          rw [WeierstrassCurve.Affine.Point.add_of_Y_ne notOpposite]
          apply to_weierstrass_along_line
          simp only [residue_mul, coordinate_inverse, residue_numeral, curve_tangent _ notOpposite]
        · have different : residue x₁ ≠ residue x₂ := mt residue_eq_iff.mp sameX
          rw [WeierstrassCurve.Affine.Point.add_of_X_ne different]
          apply to_weierstrass_along_line
          simp only [residue_mul, residue_sub, coordinate_inverse, curve_chord _ _ different]

instance : Zero Point := ⟨identity⟩

theorem to_weierstrass_zero : (0 : Point).toWeierstrass = 0 := rfl

instance : AddCommGroup Point where
  add_assoc left middle right := to_weierstrass_injective (by
    simp only [to_weierstrass_add, add_assoc])
  zero_add point := to_weierstrass_injective (by
    rw [to_weierstrass_add, to_weierstrass_zero, zero_add])
  add_zero point := to_weierstrass_injective (by
    rw [to_weierstrass_add, to_weierstrass_zero, add_zero])
  add_comm left right := to_weierstrass_injective (by
    rw [to_weierstrass_add, to_weierstrass_add, add_comm])
  neg_add_cancel point := to_weierstrass_injective (by
    rw [to_weierstrass_add, to_weierstrass_negate, neg_add_cancel, to_weierstrass_zero])
  sub_eq_add_neg left right := rfl
  nsmul := nsmulRec
  zsmul := zsmulRec

def toWeierstrassHom : Point →+ curve.Point where
  toFun := toWeierstrass
  map_zero' := to_weierstrass_zero
  map_add' := to_weierstrass_add

theorem to_weierstrass_nsmul (count : Nat) (point : Point) :
    (count • point).toWeierstrass = count • point.toWeierstrass :=
  map_nsmul toWeierstrassHom count point

end Point
end ObliviousTransfer
