import ObliviousTransfer.Proofs.Curve.Multiple

/-!
The curve has exactly `groupOrder` points. The generator has that prime order,
so it divides the number of points; there are at most two points for each `x`
besides the identity, and no point of order two. Every point is therefore
killed by the order, and scalars act on points as the field of their residues:
equal multiples can be cancelled, and every point is a multiple of the generator.
-/

namespace ObliviousTransfer

open ObliviousTransfer.Modular

/-- An odd prime, so a coordinate and its opposite have different parities. -/
theorem coordinate_negate_parity {y : Coordinate} (nonzero : y ≠ 0) :
    (-y).val % 2 ≠ y.val % 2 := by
  have positive : y.val ≠ 0 := fun zero => nonzero (Fin.ext zero)
  have bound := y.isLt
  have value : (-y).val = fieldPrime - y.val := by
    rw [Fin.val_neg, if_neg nonzero]
  have odd : fieldPrime % 2 = 1 := by decide
  omega

theorem on_curve_opposite {x y₁ y₂ : Coordinate} (onCurve₁ : OnCurve x y₁)
    (onCurve₂ : OnCurve x y₂) : y₁ = y₂ ∨ y₁ = -y₂ := by
  have squares := congrArg residue (onCurve₁.trans onCurve₂.symm)
  rw [residue_mul, residue_mul] at squares
  rcases mul_self_eq_mul_self_iff.mp squares with same | opposite
  · exact Or.inl (residue_injective same)
  · rw [← residue_neg] at opposite
    exact Or.inr (residue_injective opposite)

theorem on_curve_parity {x y₁ y₂ : Coordinate} (onCurve₁ : OnCurve x y₁) (onCurve₂ : OnCurve x y₂)
    (parity : y₁.val % 2 = y₂.val % 2) : y₁ = y₂ := by
  rcases on_curve_opposite onCurve₁ onCurve₂ with same | opposite
  · exact same
  · by_cases zero : y₂ = 0
    · rw [opposite, zero, neg_zero]
    · rw [opposite] at parity
      exact absurd parity (coordinate_negate_parity zero)

/-- The number `-7` is not a cube, as its power with a third of the order of the units shows. -/
theorem on_curve_y_ne_zero {x y : Coordinate} (onCurve : OnCurve x y) : y ≠ 0 := by
  intro zero
  have cube : residue x ^ 3 = -7 := by
    have equation := congrArg residue onCurve
    rw [zero] at equation
    simp only [residue_mul, residue_add, residue_zero, residue_numeral] at equation
    linear_combination -equation
  have nonzero : residue x ≠ 0 := by
    intro none
    rw [none] at cube
    revert cube
    decide
  have third : (-7 : ZMod fieldPrime) ^ ((fieldPrime - 1) / 3) = 1 := by
    rw [← cube, ← pow_mul, show 3 * ((fieldPrime - 1) / 3) = fieldPrime - 1 by decide]
    exact ZMod.pow_card_sub_one_eq_one nonzero
  have computed : power (-7 : Coordinate) ((fieldPrime - 1) / 3) ≠ 1 := by decide +kernel
  apply computed
  apply residue_injective
  rw [residue_power _ (by decide), residue_neg, residue_numeral, residue_one]
  exact third

/-- The number seven is not a square, as its power with half of the order of the units shows. -/
theorem on_curve_x_ne_zero {x y : Coordinate} (onCurve : OnCurve x y) : x ≠ 0 := by
  intro zero
  have square : residue y ^ 2 = 7 := by
    have equation := congrArg residue onCurve
    rw [zero] at equation
    simp only [residue_mul, residue_add, residue_zero, residue_numeral] at equation
    linear_combination equation
  have nonzero : residue y ≠ 0 := mt residue_eq_zero_iff.mp (on_curve_y_ne_zero onCurve)
  have half : (7 : ZMod fieldPrime) ^ ((fieldPrime - 1) / 2) = 1 := by
    rw [← square, ← pow_mul, show 2 * ((fieldPrime - 1) / 2) = fieldPrime - 1 by decide]
    exact ZMod.pow_card_sub_one_eq_one nonzero
  have computed : power (7 : Coordinate) ((fieldPrime - 1) / 2) ≠ 1 := by decide +kernel
  apply computed
  apply residue_injective
  rw [residue_power _ (by decide), residue_numeral, residue_one]
  exact half

namespace Point

def compressed : Point → Option (Coordinate × Bool)
  | identity => none
  | affine x y _ => some (x, y.val % 2 == 1)

theorem compressed_injective : Function.Injective compressed := by
  intro left right same
  cases left with
  | identity => cases right with
    | identity => rfl
    | affine => cases same
  | affine x₁ y₁ onCurve₁ => cases right with
    | identity => cases same
    | affine x₂ y₂ onCurve₂ =>
        have parts := Prod.mk.inj (Option.some.inj same)
        have sameX : x₁ = x₂ := parts.1
        subst sameX
        have parity : y₁.val % 2 = y₂.val % 2 := by
          have decided := parts.2
          rw [Bool.eq_iff_iff, beq_iff_eq, beq_iff_eq] at decided
          omega
        have sameY : y₁ = y₂ := on_curve_parity onCurve₁ onCurve₂ parity
        subst sameY
        rfl

instance : Finite Point := Finite.of_injective compressed compressed_injective

theorem card_le : Nat.card Point ≤ 2 * fieldPrime + 1 := by
  calc
    Nat.card Point ≤ Nat.card (Option (Coordinate × Bool)) :=
      Nat.card_le_card_of_injective compressed compressed_injective
    _ = fieldPrime * 2 + 1 := by
      rw [Finite.card_option, Nat.card_prod, Nat.card_fin, Nat.card_eq_fintype_card,
        Fintype.card_bool]
    _ = 2 * fieldPrime + 1 := by rw [Nat.mul_comm]

theorem odd_y_negate {point : Point} (notIdentity : point ≠ .identity) :
    (-point).oddY = !point.oddY := by
  cases point with
  | identity => exact absurd rfl notIdentity
  | affine x y onCurve =>
      have flips := coordinate_negate_parity (on_curve_y_ne_zero onCurve)
      change ((-y).val % 2 == 1) = !(y.val % 2 == 1)
      rw [Bool.eq_iff_iff, Bool.not_eq_true', beq_iff_eq, beq_eq_false_iff_ne]
      omega

theorem negate_ne {point : Point} (notIdentity : point ≠ .identity) : -point ≠ point := by
  intro same
  have flips := odd_y_negate notIdentity
  rw [same] at flips
  exact Bool.not_ne_self _ flips.symm

theorem eq_zero_of_double {point : Point} (double : 2 • point = 0) : point = 0 := by
  rw [two_nsmul, add_eq_zero_iff_eq_neg] at double
  by_contra notIdentity
  exact negate_ne notIdentity double.symm

theorem negate_eq_identity_iff {point : Point} : -point = .identity ↔ point = .identity :=
  neg_eq_zero

theorem card_odd : ¬2 ∣ Nat.card Point := by
  intro even
  obtain ⟨point, order⟩ := exists_prime_addOrderOf_dvd_card' 2 even
  have zero : point = 0 := eq_zero_of_double (order ▸ addOrderOf_nsmul_eq_zero point)
  rw [zero, addOrderOf_zero] at order
  cases order

theorem generator_order : addOrderOf generator = groupOrder := by
  apply addOrderOf_eq_prime
  · have last : (⟨groupOrder - 1, by decide⟩ : Scalar) • generator = -generator := by
      decide +kernel
    rw [scalar_smul_eq_nsmul] at last
    rw [show groupOrder = groupOrder - 1 + 1 by decide, succ_nsmul, last, neg_add_cancel]
  · intro zero
    cases zero

theorem card_eq_group_order : Nat.card Point = groupOrder := by
  obtain ⟨index, product⟩ := generator_order ▸ addOrderOf_dvd_natCard generator
  have small : index < 3 := by
    have bound := card_le
    rw [product] at bound
    have size : 2 * fieldPrime + 1 < groupOrder * 3 := by decide
    exact lt_of_mul_lt_mul_left (bound.trans_lt size) (Nat.zero_le _)
  have positive : Nat.card Point ≠ 0 := Nat.card_pos.ne'
  have odd := card_odd
  rw [product] at positive odd ⊢
  -- Zero points are too few, and twice the order is an even number of them.
  interval_cases index
  · exact absurd (Nat.mul_zero _) positive
  · exact Nat.mul_one _
  · exact absurd (Nat.dvd_mul_left 2 _) odd

theorem group_order_nsmul (point : Point) : groupOrder • point = 0 :=
  card_eq_group_order ▸ card_nsmul_eq_zero'

instance : Module (ZMod groupOrder) Point := AddCommGroup.zmodModule group_order_nsmul

theorem scalar_smul_eq (scalar : Scalar) (point : Point) :
    scalar • point = residue scalar • point := by
  rw [scalar_smul_eq_nsmul, residue, Nat.cast_smul_eq_nsmul]

theorem scalar_smul_inj {scalar : Scalar} (nonzero : scalar ≠ 0) {left right : Point} :
    scalar • left = scalar • right ↔ left = right := by
  rw [scalar_smul_eq, scalar_smul_eq]
  exact smul_right_inj (mt residue_eq_zero_iff.mp nonzero)

theorem smul_point_inj {point : Point} (notIdentity : point ≠ .identity) {left right : Scalar} :
    left • point = right • point ↔ left = right := by
  rw [scalar_smul_eq, scalar_smul_eq, ← residue_eq_iff]
  exact smul_left_inj notIdentity

theorem negate_smul_negate (scalar : Scalar) (point : Point) :
    (-scalar) • (-point) = scalar • point := by
  rw [scalar_smul_eq, scalar_smul_eq, residue_neg, neg_smul_neg]

theorem generator_smul_eq_identity_iff {scalar : Scalar} :
    scalar • generator = .identity ↔ scalar = 0 := by
  have generatorNonzero : generator ≠ 0 := Point.noConfusion
  have identity : (.identity : Point) = 0 := rfl
  rw [identity, scalar_smul_eq, smul_eq_zero, or_iff_left generatorNonzero,
    residue_eq_zero_iff]

theorem generator_smul_inj {left right : Scalar} :
    left • generator = right • generator ↔ left = right := smul_point_inj Point.noConfusion

/-- There are as many scalars as points, so every point is a multiple of the generator. -/
theorem exists_generator_smul (point : Point) : ∃ scalar : Scalar, scalar • generator = point := by
  have sameCard : Nat.card Scalar = Nat.card Point := by
    rw [card_eq_group_order, Nat.card_fin]
  have injective : Function.Injective fun scalar : Scalar => scalar • generator :=
    fun _ _ => generator_smul_inj.mp
  exact ((Nat.bijective_iff_injective_and_card _).mpr ⟨injective, sameCard⟩).surjective point

end Point

theorem scalar_inverse (value : Scalar) : residue (inverse value) = (residue value)⁻¹ :=
  residue_inverse (by decide) (by decide) value

theorem scalar_inverse_mul {value : Scalar} (nonzero : value ≠ 0) : inverse value * value = 1 := by
  apply residue_injective
  rw [residue_mul, scalar_inverse, residue_one]
  exact inv_mul_cancel₀ (mt residue_eq_zero_iff.mp nonzero)

theorem Point.inverse_smul_eq_iff {scalar : Scalar} (nonzero : scalar ≠ 0) {left right : Point} :
    inverse scalar • left = right ↔ left = scalar • right := by
  rw [Point.scalar_smul_eq, Point.scalar_smul_eq, scalar_inverse,
    inv_smul_eq_iff₀ (mt residue_eq_zero_iff.mp nonzero)]

theorem scalar_mul_eq_iff {factor : Scalar} (nonzero : factor ≠ 0) (value product : Scalar) :
    value * factor = product ↔ value = inverse factor * product := by
  have residueNonzero : residue factor ≠ 0 := mt residue_eq_zero_iff.mp nonzero
  rw [← residue_eq_iff, ← residue_eq_iff, residue_mul, residue_mul, scalar_inverse,
    eq_inv_mul_iff_mul_eq₀ residueNonzero, mul_comm (residue factor)]

end ObliviousTransfer
