import ObliviousTransfer.Hash.Hasher

/-!
The tree over the chunks, grown from left to right. Every subtree that is kept has
a power of two of chunks and lies at a multiple of twice its size, so the kept
subtrees and the chunks behind them join to the tree that is cut from the top.
-/

namespace ObliviousTransfer.Blake3

attribute [local instance (5000)] instPowNat instNatPowNat

section Joining

variable (key : Chain) (flags : Word)

theorem left_chunks_power {power rest : Nat} (positive : 0 < rest) (bounded : rest ≤ 2 ^ power) :
    leftChunks (2 ^ power + rest) = 2 ^ power := by
  have full := Nat.two_pow_pos power
  have level : (2 ^ power + rest - 1).log2 = power := by
    rw [Nat.log2_eq_iff (by omega), Nat.pow_succ]
    omega
  rw [leftChunks, Nat.one_shiftLeft, level]

/-- A full subtree and what is to the right of it, as long as that is no larger. -/
theorem tree_node_append {left right : List (List Byte)} {power : Nat}
    (size : left.length = 2 ^ power) (positive : 0 < right.length)
    (bounded : right.length ≤ 2 ^ power) (before : Nat) :
    treeNode key flags before.toUInt64 (left ++ right) =
      parentNode key flags (treeNode key flags before.toUInt64 left).compress
        (treeNode key flags (before + left.length).toUInt64 right).compress := by
  have full := Nat.two_pow_pos power
  have length : (left ++ right).length = 2 ^ power + right.length := by
    rw [List.length_append, size]
  have several : 2 ≤ (left ++ right).length := by omega
  have count : leftChunks (left ++ right).length = left.length := by
    rw [length, left_chunks_power positive bounded, size]
  have counter : before.toUInt64 + left.length.toUInt64 = (before + left.length).toUInt64 :=
    (UInt64.ofNat_add before left.length).symm
  rw [treeNode, dif_pos several, count]
  simp only [List.take_left, List.drop_left, counter]

theorem tree_node_singleton (counter : UInt64) (chunk : List Byte) :
    treeNode key flags counter [chunk] = chunkNode key flags counter chunk := by
  rw [treeNode, dif_neg (by simp), List.flatten_singleton]

end Joining

/-- The subtrees that are kept, the one next to the open chunk first, and the chunks below them. -/
inductive Subtrees (key : Chain) (flags : Word) : List Chain → List (List Byte) → Prop
  | none : Subtrees key flags [] []
  | next {tops : List Chain} {chunks subtree : List (List Byte)} {power : Nat}
      (before : Subtrees key flags tops chunks) (size : subtree.length = 2 ^ power)
      (aligned : 2 ^ (power + 1) ∣ chunks.length) :
      Subtrees key flags ((treeNode key flags chunks.length.toUInt64 subtree).compress :: tops)
        (chunks ++ subtree)

section Alignment

variable {start level power count : Nat}

theorem power_le_of_aligned (aligned : 2 ^ (level + 1) ∣ start)
    (alignedNext : 2 ^ power ∣ start + 2 ^ level) : power ≤ level := by
  apply Nat.le_of_not_lt
  intro larger
  have both : 2 ^ (level + 1) ∣ start + 2 ^ level :=
    Nat.dvd_trans (Nat.pow_dvd_pow 2 larger) alignedNext
  have divides : 2 ^ (level + 1) ∣ 2 ^ level := (Nat.dvd_add_right aligned).mp both
  have small := Nat.le_of_dvd (Nat.two_pow_pos level) divides
  have full := Nat.two_pow_pos level
  rw [Nat.pow_succ] at small
  omega

/-- Subtrees of a smaller size come in pairs up to here. -/
theorem power_eq_of_odd (aligned : 2 ^ (level + 1) ∣ start)
    (counted : start + 2 ^ level = 2 ^ power * count) (odd : count % 2 = 1) : power = level := by
  apply Nat.le_antisymm (power_le_of_aligned aligned ⟨count, counted⟩)
  apply Nat.le_of_not_lt
  intro smaller
  have above : 2 ^ (power + 1) ∣ start :=
    Nat.dvd_trans (Nat.pow_dvd_pow 2 (Nat.le_succ_of_le smaller)) aligned
  have pairs : 2 ^ power * 2 ∣ 2 ^ power * count := by
    rw [← counted, ← Nat.pow_succ]
    exact Nat.dvd_add above (Nat.pow_dvd_pow 2 smaller)
  have even := Nat.dvd_of_mul_dvd_mul_left (Nat.two_pow_pos power) pairs
  omega

theorem half_count (aligned : 2 ^ (power + 1) ∣ start)
    (counted : start + 2 ^ power = 2 ^ power * count) :
    (count + 1) / 2 = start / 2 ^ (power + 1) + 1 := by
  obtain ⟨half, halves⟩ := aligned
  have whole : 2 ^ power * count = 2 ^ power * (2 * half + 1) := by
    rw [← counted, halves, Nat.pow_succ, Nat.mul_add, Nat.mul_assoc, Nat.mul_one]
  have odd := Nat.eq_of_mul_eq_mul_left (Nat.two_pow_pos power) whole
  rw [halves, Nat.mul_div_cancel_left half (Nat.two_pow_pos _)]
  omega

end Alignment

namespace Subtrees

variable {key : Chain} {flags : Word} {tops : List Chain} {chunks : List (List Byte)}

/-- The new subtree is joined with those of its size, as a carry goes up the bits of the count. -/
theorem add (subtrees : Subtrees key flags tops chunks) {subtree : List (List Byte)} {power : Nat}
    (size : subtree.length = 2 ^ power) (aligned : 2 ^ power ∣ chunks.length) :
    Subtrees key flags
      (addSubtree key flags tops (treeNode key flags chunks.length.toUInt64 subtree).compress
        (chunks.length / 2 ^ power + 1))
      (chunks ++ subtree) := by
  induction subtrees generalizing subtree power with
  | none => exact next none size (Nat.dvd_zero _)
  | @next tops chunks left level before leftSize leftAligned ih =>
      obtain ⟨count, counted⟩ := aligned
      have quotient : (chunks ++ left).length / 2 ^ power = count := by
        rw [counted, Nat.mul_div_cancel_left count (Nat.two_pow_pos power)]
      have position : chunks.length + 2 ^ level = 2 ^ power * count := by
        rw [← counted, List.length_append, leftSize]
      rw [addSubtree, quotient]
      by_cases carries : (count + 1) % 2 = 0
      · have same : power = level := power_eq_of_odd leftAligned position (by omega)
        subst same
        have full := Nat.two_pow_pos power
        have joined := tree_node_append key flags leftSize (by omega) (Nat.le_of_eq size)
          chunks.length
        have joinedSize : (left ++ subtree).length = 2 ^ (power + 1) := by
          rw [List.length_append, leftSize, size, Nat.pow_succ, Nat.mul_two]
        rw [if_pos carries, List.length_append, ← joined, half_count leftAligned position,
          List.append_assoc]
        exact ih joinedSize leftAligned
      · have doubled : 2 ^ (power + 1) ∣ (chunks ++ left).length := by
          rw [counted, Nat.pow_succ]
          exact Nat.mul_dvd_mul_left _ (by omega)
        rw [if_neg carries]
        exact next (next before leftSize leftAligned) size doubled

/-- The kept subtrees on the left of a last one that is no larger than any of them. -/
theorem join_last (subtrees : Subtrees key flags tops chunks) {last : List (List Byte)}
    {power : Nat} (positive : 0 < last.length) (bounded : last.length ≤ 2 ^ power)
    (aligned : 2 ^ power ∣ chunks.length) :
    tops.foldl (fun node left => parentNode key flags left node.compress)
        (treeNode key flags chunks.length.toUInt64 last) =
      treeNode key flags 0 (chunks ++ last) := by
  induction subtrees generalizing last power with
  | none => rfl
  | @next tops chunks left level before leftSize leftAligned ih =>
      rw [List.length_append, leftSize] at aligned
      have lower := power_le_of_aligned leftAligned aligned
      have smaller : last.length ≤ 2 ^ level :=
        Nat.le_trans bounded (Nat.pow_le_pow_right Nat.zero_lt_two lower)
      have joined := tree_node_append key flags leftSize positive smaller chunks.length
      have fits : (left ++ last).length ≤ 2 ^ (level + 1) := by
        rw [List.length_append, leftSize, Nat.pow_succ]
        omega
      rw [List.foldl_cons, List.length_append, ← joined, List.append_assoc]
      exact ih (by rw [List.length_append]; omega) fits leftAligned

end Subtrees

end ObliviousTransfer.Blake3
