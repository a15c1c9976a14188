import ObliviousTransfer.Proofs.Curve.Group

/-!
The multiple of a point by a scalar is the point added to itself as often as
the scalar says. A triple represents a point of the curve, doubling and adding
keep up with the point, and the digits of the scalar lead to the multiple.
-/

namespace ObliviousTransfer

open ObliviousTransfer.Modular
open WeierstrassCurve.Affine (Point.add_of_Y_eq Point.add_of_Y_ne Point.add_of_X_ne)

namespace Triple

/-- The triple `(x, y, z)` stands for the point `(x / z², y / z³)`. -/
def Represents (triple : Triple) : curve.Point → Prop
  | .zero => residue triple.z = 0
  | .some x y _ => residue triple.z ≠ 0 ∧ residue triple.x = x * residue triple.z ^ 2 ∧
      residue triple.y = y * residue triple.z ^ 3

theorem represents_zero {triple : Triple} (zero : residue triple.z = 0) : triple.Represents 0 :=
  zero

theorem to_point_represented {triple : Triple} {point : curve.Point}
    (represents : triple.Represents point) : triple.toPoint.toWeierstrass = point := by
  cases point with
  | zero =>
      rw [toPoint, if_pos (residue_eq_zero_iff.mp represents)]
      rfl
  | some x y nonsingular =>
      obtain ⟨nonzero, sameX, sameY⟩ := represents
      rw [toPoint, if_neg (mt residue_eq_zero_iff.mpr nonzero)]
      apply Point.to_weierstrass_of_formula
      · simp only [residue_mul, coordinate_inverse, sameX]
        field_simp
      · simp only [residue_mul, coordinate_inverse, sameY]
        field_simp

theorem of_coordinates_represents {x y : Coordinate} (onCurve : OnCurve x y) :
    (ofCoordinates x y).Represents (Point.affine x y onCurve).toWeierstrass := by
  refine ⟨?_, ?_, ?_⟩ <;> simp [ofCoordinates]

theorem double_represents {triple : Triple} {point : curve.Point}
    (represents : triple.Represents point) : triple.double.Represents (point + point) := by
  cases point with
  | zero =>
      apply represents_zero
      have zero : residue triple.z = 0 := represents
      simp [double, zero]
  | some x y nonsingular =>
      obtain ⟨nonzero, sameX, sameY⟩ := represents
      by_cases opposite : y = curve.negY x y
      · rw [Point.add_of_Y_eq rfl opposite]
        apply represents_zero
        rw [curve_negate] at opposite
        simp only [double, residue_add, residue_mul, sameY]
        linear_combination residue triple.z ^ 4 * opposite
      · have twice : 2 * y ≠ 0 := by
          intro zero
          apply opposite
          rw [curve_negate]
          linear_combination zero
        have nonzeroY : y ≠ 0 := right_ne_zero_of_mul twice
        rw [Point.add_of_Y_ne opposite]
        refine ⟨?_, ?_, ?_⟩
        · have value : residue triple.double.z = 2 * y * residue triple.z ^ 4 := by
            simp only [double, residue_add, residue_mul, sameY]
            ring
          rw [value]
          exact mul_ne_zero twice (pow_ne_zero 4 nonzero)
        · simp only [double, residue_add, residue_sub, residue_mul, sameX, sameY, curve_add_x,
            curve_tangent x opposite]
          field_simp [coordinate_two_ne_zero]
          ring
        · simp only [double, residue_add, residue_sub, residue_mul, residue_numeral, sameX, sameY,
            curve_add_x, curve_add_y, curve_tangent x opposite]
          field_simp [coordinate_two_ne_zero]
          ring

theorem add_affine_represents {triple : Triple} {point : curve.Point} {x₂ y₂ : Coordinate}
    (represents : triple.Represents point) (onCurve : OnCurve x₂ y₂) :
    (triple.addAffine x₂ y₂).Represents (point + (Point.affine x₂ y₂ onCurve).toWeierstrass) := by
  cases point with
  | zero =>
      rw [addAffine, if_pos (residue_eq_zero_iff.mp represents)]
      exact of_coordinates_represents onCurve
  | some x y nonsingular =>
      have whole := represents
      obtain ⟨nonzero, sameX, sameY⟩ := represents
      have nonsingular₂ := on_curve_iff_nonsingular.mp onCurve
      -- The differences of the triple are those of the points, scaled by powers of `z`.
      have run : residue (x₂ * (triple.z * triple.z) - triple.x) =
          (residue x₂ - x) * residue triple.z ^ 2 := by
        simp only [residue_sub, residue_mul, sameX]
        ring
      have rise : residue (y₂ * (triple.z * triple.z * triple.z) - triple.y) =
          (residue y₂ - y) * residue triple.z ^ 3 := by
        simp only [residue_sub, residue_mul, sameY]
        ring
      have runZero : x₂ * (triple.z * triple.z) - triple.x = 0 ↔ x = residue x₂ := by
        rw [← residue_eq_zero_iff, run, mul_eq_zero, sub_eq_zero, eq_comm (a := x)]
        simp [nonzero]
      have riseZero : y₂ * (triple.z * triple.z * triple.z) - triple.y = 0 ↔ y = residue y₂ := by
        rw [← residue_eq_zero_iff, rise, mul_eq_zero, sub_eq_zero, eq_comm (a := y)]
        simp [nonzero]
      change Represents _ (WeierstrassCurve.Affine.Point.some x y nonsingular +
        WeierstrassCurve.Affine.Point.some (residue x₂) (residue y₂) nonsingular₂)
      simp only [addAffine, if_neg (mt residue_eq_zero_iff.mpr nonzero), runZero, riseZero]
      split_ifs with eqX eqY
      · subst eqX eqY
        exact double_represents whole
      · have opposite : y = curve.negY (residue x₂) (residue y₂) := by
          rcases WeierstrassCurve.Affine.Y_eq_of_X_eq nonsingular.1 nonsingular₂.1 eqX with
            same | negated
          · exact absurd same eqY
          · exact negated
        rw [Point.add_of_Y_eq eqX opposite]
        exact represents_zero residue_zero
      · have difference : residue x₂ - x ≠ 0 := sub_ne_zero.mpr (Ne.symm eqX)
        rw [Point.add_of_X_ne eqX]
        refine ⟨?_, ?_, ?_⟩
        · rw [residue_mul, run]
          exact mul_ne_zero nonzero (mul_ne_zero difference (pow_ne_zero 2 nonzero))
        · simp only [residue_sub, residue_mul, sameX, sameY, curve_add_x, curve_chord _ _ eqX]
          field_simp
          ring
        · simp only [residue_sub, residue_mul, sameX, sameY, curve_add_x, curve_add_y,
            curve_chord _ _ eqX]
          field_simp
          ring

/-- What the triple stands for after some digits is what the number read so far says. -/
theorem digits_represents {x y : Coordinate} (onCurve : OnCurve x y) (triple : Triple)
    (value : Nat) (digits : List Bool)
    (reached : triple.Represents (value • (Point.affine x y onCurve).toWeierstrass)) :
    (digits.foldl (fun sum digit => if digit then sum.double.addAffine x y else sum.double)
      triple).Represents
        (digitsValue value digits • (Point.affine x y onCurve).toWeierstrass) := by
  -- The number read so far is generalized with the triple, as both move with each digit.
  induction digits generalizing triple value with
  | nil => exact reached
  | cons digit digits induction =>
      have doubled := double_represents reached
      rw [← add_nsmul, ← two_mul] at doubled
      cases digit with
      | false => exact induction triple.double (2 * value) doubled
      | true =>
          apply induction (triple.double.addAffine x y) (2 * value + 1)
          rw [succ_nsmul]
          exact add_affine_represents doubled onCurve

end Triple

namespace Point

theorem scalar_smul_eq_nsmul (scalar : Scalar) (point : Point) :
    scalar • point = scalar.val • point := by
  cases point with
  | identity => exact (nsmul_zero scalar.val).symm
  | affine x y onCurve =>
      apply to_weierstrass_injective
      have small : scalar.val < 2 ^ exponentBits := scalar.isLt.trans (by decide)
      have start : Triple.identity.Represents (0 • (affine x y onCurve).toWeierstrass) := by
        rw [zero_nsmul]
        exact Triple.represents_zero residue_zero
      have represents := Triple.digits_represents onCurve Triple.identity 0
        (binaryDigits exponentBits scalar.val) start
      rw [digits_value_exponent small] at represents
      rw [to_weierstrass_nsmul]
      exact Triple.to_point_represented represents

end Point
end ObliviousTransfer
