import ObliviousTransfer.Proofs.Ecdsa.Verification

/-!
What the compact form keeps of a signature. It has the smaller of `s` and `-s`,
and a parity that is turned over with the sign, so a signature and its mirrored
one have the same form. No other two signatures have, and without a point or
without an `s` to negate not even these.
-/

namespace ObliviousTransfer

namespace Signature

theorem is_high_iff {scalar : Scalar} :
    isHigh scalar = true ↔ (groupOrder - 1) / 2 < scalar.val := decide_eq_true_iff

/-- The order is odd, so of a scalar and its negation just one is in the upper half. -/
theorem is_high_negate {scalar : Scalar} (nonzero : scalar ≠ 0) :
    isHigh (-scalar) = !isHigh scalar := by
  have value : (-scalar).val = groupOrder - scalar.val := by
    rw [Fin.val_neg, if_neg nonzero]
  have positive : scalar.val ≠ 0 := fun zero => nonzero (Fin.ext zero)
  have bound := scalar.isLt
  have odd : groupOrder % 2 = 1 := by decide
  rw [Bool.eq_iff_iff, Bool.not_eq_true', ← Bool.not_eq_true, is_high_iff, is_high_iff, value]
  omega

theorem low_s_cases (signature : Signature) :
    signature.lowS = signature.s ∨ signature.lowS = -signature.s := by
  rw [lowS]
  split_ifs
  · exact Or.inr rfl
  · exact Or.inl rfl

theorem low_s_negate {left right : Signature} (negated : right.s = -left.s) :
    right.lowS = left.lowS := by
  by_cases zero : left.s = 0
  · rw [zero, neg_zero, ← zero] at negated
    rw [lowS, lowS, negated]
  · rw [lowS, lowS, negated, is_high_negate zero, neg_neg]
    cases isHigh left.s <;> rfl

theorem low_s_le (signature : Signature) : signature.lowS.val ≤ (groupOrder - 1) / 2 := by
  rw [lowS]
  split_ifs with high
  · have nonzero : signature.s ≠ 0 := by
      intro zero
      rw [zero] at high
      exact absurd high (by decide)
    have flipped := is_high_negate nonzero
    rw [high, Bool.not_true, ← Bool.not_eq_true, is_high_iff] at flipped
    exact Nat.le_of_not_lt flipped
  · rw [is_high_iff] at high
    exact Nat.le_of_not_lt high

theorem low_s_eq_iff {left right : Signature} :
    left.lowS = right.lowS ↔ right.s = left.s ∨ right.s = -left.s := by
  constructor
  · intro same
    rcases low_s_cases left with leftKept | leftNegated
    · rcases low_s_cases right with rightKept | rightNegated
      · exact Or.inl (rightKept.symm.trans (same.symm.trans leftKept))
      · right
        rw [← leftKept, same, rightNegated, neg_neg]
    · rcases low_s_cases right with rightKept | rightNegated
      · exact Or.inr (rightKept.symm.trans (same.symm.trans leftNegated))
      · left
        rw [← neg_inj, ← rightNegated, ← same, leftNegated]
  · rintro (same | negated)
    · rw [lowS, lowS, same]
    · exact (low_s_negate negated).symm

theorem recovery_byte_eq_iff {left right : Signature} :
    left.recoveryByte = right.recoveryByte ↔
      (left.r.oddY ^^ isHigh left.s) = (right.r.oddY ^^ isHigh right.s) := by
  unfold recoveryByte
  cases left.r.oddY ^^ isHigh left.s <;> cases right.r.oddY ^^ isHigh right.s <;> decide

theorem compact_eq_iff_parts {left right : Signature} :
    left.compact = right.compact ↔
      (right.r = left.r ∨ right.r = -left.r) ∧ (right.s = left.s ∨ right.s = -left.s) ∧
        (left.r.oddY ^^ isHigh left.s) = (right.r.oddY ^^ isHigh right.s) := by
  have last : left.compact = right.compact ↔
      left.r.xBytes.append (encodeScalar left.lowS) =
          right.r.xBytes.append (encodeScalar right.lowS) ∧
        (⟨[left.recoveryByte], rfl⟩ : Octets 1) = ⟨[right.recoveryByte], rfl⟩ :=
    Octets.append_inj
  rw [last, Octets.append_inj, Point.x_bytes_eq_iff, encode_scalar_injective.eq_iff,
    low_s_eq_iff, Octets.mk.injEq, List.singleton_inj, recovery_byte_eq_iff, and_assoc]

section Related

variable {left right : Signature}

theorem compact_same_point_iff (samePoint : right.r = left.r) :
    left.compact = right.compact ↔ right = left := by
  rw [compact_eq_iff_parts, samePoint, Bool.xor_right_inj]
  constructor
  · rintro ⟨_, scalars, high⟩
    rcases scalars with same | negated
    · exact Signature.ext samePoint same
    · by_cases zero : left.s = 0
      · rw [zero, neg_zero, ← zero] at negated
        exact Signature.ext samePoint negated
      · rw [negated, is_high_negate zero] at high
        exact absurd high.symm (Bool.not_ne_self _)
  · intro same
    rw [same]
    exact ⟨Or.inl rfl, Or.inl rfl, rfl⟩

/-- Both turns of the parity cancel, so neither happens alone. -/
theorem compact_opposite_point_iff (notIdentity : left.r ≠ .identity)
    (opposite : right.r = -left.r) :
    left.compact = right.compact ↔ left.s ≠ 0 ∧ right = left.mirrored := by
  rw [compact_eq_iff_parts, opposite, Point.odd_y_negate notIdentity, Bool.not_xor,
    ← Bool.xor_not, Bool.xor_right_inj]
  constructor
  · rintro ⟨_, scalars, high⟩
    rcases scalars with same | negated
    · rw [same] at high
      exact absurd high.symm (Bool.not_ne_self _)
    · refine ⟨?_, Signature.ext opposite negated⟩
      intro zero
      rw [negated, zero, neg_zero] at high
      exact absurd high.symm (Bool.not_ne_self _)
  · rintro ⟨nonzero, same⟩
    refine ⟨Or.inr rfl, Or.inr (congrArg Signature.s same), ?_⟩
    rw [same, mirrored, is_high_negate nonzero, Bool.not_not]

theorem compact_eq_iff :
    left.compact = right.compact ↔
      right = left ∨ left.r ≠ .identity ∧ left.s ≠ 0 ∧ right = left.mirrored := by
  constructor
  · intro same
    by_cases samePoint : right.r = left.r
    · exact Or.inl ((compact_same_point_iff samePoint).mp same)
    · have opposite := (compact_eq_iff_parts.mp same).1.resolve_left samePoint
      have notIdentity : left.r ≠ .identity := by
        intro identity
        rw [opposite, identity] at samePoint
        exact samePoint rfl
      exact Or.inr ⟨notIdentity, (compact_opposite_point_iff notIdentity opposite).mp same⟩
  · rintro (same | ⟨notIdentity, mirror⟩)
    · rw [same]
    · exact (compact_opposite_point_iff notIdentity (congrArg Signature.r mirror.2)).mpr mirror

end Related

theorem compact_bytes (signature : Signature) :
    signature.compact.bytes = signature.r.xBytes.bytes ++
      ((encodeScalar signature.lowS).bytes ++ [signature.recoveryByte]) :=
  List.append_assoc _ _ _

theorem compact_middle (signature : Signature) :
    (signature.compact.bytes.drop 32).take 32 = (encodeScalar signature.lowS).bytes := by
  have length : (encodeScalar signature.lowS).bytes.length = 32 :=
    (encodeScalar signature.lowS).length_eq
  rw [compact_bytes, List.drop_left' signature.r.xBytes.length_eq, List.take_left' length]

theorem compact_scalar (signature : Signature) :
    decodeScalar ((signature.compact.bytes.drop 32).take 32) = .ok signature.lowS := by
  rw [compact_middle, decode_scalar_encode]

theorem compact_last (signature : Signature) :
    signature.compact.bytes[64]? = some signature.recoveryByte := by
  let front := signature.r.xBytes.append (encodeScalar signature.lowS)
  have length : front.bytes.length = 64 := front.length_eq
  have last : (front.bytes ++ [signature.recoveryByte])[front.bytes.length]? =
      some signature.recoveryByte := List.getElem?_concat_length
  rw [length] at last
  exact last

theorem recovery_byte_cases (signature : Signature) :
    signature.recoveryByte = 0 ∨ signature.recoveryByte = 1 := by
  rw [recoveryByte]
  split_ifs
  · exact Or.inr rfl
  · exact Or.inl rfl

end Signature

/-- The compact form tells all signatures apart but for a signature and its mirrored one, which
share theirs if there is a point and an `s` to negate. It always has the smaller of `s` and `-s`,
and a parity. -/
theorem compact_identifies_mirrored :
    (∀ left right : Signature, left.compact = right.compact ↔
      right = left ∨ left.r ≠ .identity ∧ left.s ≠ 0 ∧ right = ⟨-left.r, -left.s⟩) ∧
    ∀ signature : Signature, ∃ low : Scalar,
      decodeScalar ((signature.compact.bytes.drop 32).take 32) = .ok low ∧
        low.val ≤ (groupOrder - 1) / 2 ∧ (low = signature.s ∨ low = -signature.s) ∧
        (signature.compact.bytes[64]? = some 0 ∨ signature.compact.bytes[64]? = some 1) := by
  constructor
  · intro left right
    exact Signature.compact_eq_iff
  · intro signature
    refine ⟨signature.lowS, signature.compact_scalar, signature.low_s_le,
      signature.low_s_cases, ?_⟩
    rw [signature.compact_last, Option.some_inj, Option.some_inj]
    exact signature.recovery_byte_cases

/-- The generator with the scalar three: a mirrored pair shares its form, and the negation of one
part alone does not. -/
example :
    let signature : Signature := ⟨Point.generator, 3⟩
    signature.mirrored.compact = signature.compact ∧
      Signature.compact ⟨-signature.r, signature.s⟩ ≠ signature.compact := by
  decide +kernel

end ObliviousTransfer
