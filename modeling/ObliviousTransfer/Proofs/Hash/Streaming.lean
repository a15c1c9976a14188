import ObliviousTransfer.Proofs.Hash.Chunk
import ObliviousTransfer.Proofs.Hash.Tree

/-!
The hash of input that comes in parts. One invariant says which bytes a hasher has
taken since it was started; every part keeps it, and it gives the hash of them all.
-/

namespace ObliviousTransfer.Blake3.Hasher

/-- The hasher has closed the chunks, and the last one is under way. -/
structure Covers (key : Chain) (hasher : Hasher) (chunks : List (List Byte)) (last : List Byte) :
    Prop where
  keyed : hasher.key = key
  cut : Cut 1024 chunks last
  length : hasher.chunk.length = last.length
  underway : OpenChunk.Holds key keyedFlag chunks.length hasher.chunk last
  closed : Subtrees key keyedFlag hasher.subtrees chunks

def Holds (key : Chain) (hasher : Hasher) (bytes : List Byte) : Prop :=
  ∃ chunks last, Covers key hasher chunks last ∧ chunks.flatten ++ last = bytes

variable {key : Chain} {hasher : Hasher} {bytes : List Byte}

theorem holds_start (key : Chain) : Holds key (start key) [] :=
  ⟨[], [], ⟨rfl, .nil 1024, rfl, OpenChunk.holds_start key keyedFlag 0, .none⟩, rfl⟩

theorem Holds.reset (holds : Holds key hasher bytes) : Holds key hasher.reset [] := by
  obtain ⟨chunks, last, covers, _⟩ := holds
  rw [Hasher.reset, covers.keyed]
  exact holds_start key

section Closing

variable {chunks : List (List Byte)} {last : List Byte} (covers : Covers key hasher chunks last)
include covers

theorem Covers.index_eq : hasher.chunk.index = chunks.length := by
  obtain ⟨_, chains, _⟩ := covers.underway
  exact chains.indexed

theorem Covers.close_subtrees :
    Subtrees key keyedFlag hasher.closeChunk.subtrees (chunks ++ [last]) := by
  have added := @Subtrees.add _ _ _ _ covers.closed [last] 0 rfl (Nat.one_dvd _)
  rw [tree_node_singleton, ← covers.underway.last_node, Nat.pow_zero, Nat.div_one] at added
  rw [closeChunk, covers.keyed, covers.index_eq]
  exact added

theorem Covers.close_chunk :
    OpenChunk.Holds key keyedFlag (chunks ++ [last]).length hasher.closeChunk.chunk [] := by
  rw [closeChunk, covers.keyed, covers.index_eq, List.length_append]
  exact OpenChunk.holds_start key keyedFlag (chunks.length + 1)

end Closing

/-- One pass of the loop: the open chunk is closed if it is full, and the input fills up the one that
is open then. -/
theorem Holds.refill (holds : Holds key hasher bytes) {input : List Byte} (more : input ≠ []) :
    let ready := hasher.makeRoom
    Holds key (ready.fill input) (bytes ++ input.take ready.room) := by
  intro ready
  obtain ⟨chunks, last, covers, joined⟩ := holds
  by_cases filled : hasher.chunk.length = 1024
  · have emptied : ready = hasher.closeChunk := if_pos filled
    have taken : input.take 1024 ≠ [] := fun none =>
      more ((List.take_eq_nil_iff.mp none).resolve_left (by decide))
    have follows := covers.cut.follow (covers.length.symm.trans filled) taken
      (List.length_take_le 1024 input)
    rw [emptied]
    refine ⟨chunks ++ [last], input.take 1024,
      ⟨covers.keyed, follows, ?_, covers.close_chunk.absorb _, covers.close_subtrees⟩, ?_⟩
    · rw [fill, OpenChunk.absorb_length]
      exact Nat.zero_add _
    · rw [List.flatten_append, List.flatten_singleton, joined]
      rfl
  · have kept : ready = hasher := if_neg filled
    have fits : last.length + (input.take hasher.room).length ≤ 1024 := by
      have := hasher.chunk_le
      rw [← covers.length]
      simp only [List.length_take, room]
      omega
    rw [kept]
    refine ⟨chunks, last ++ input.take hasher.room,
      ⟨covers.keyed, covers.cut.fill fits, ?_, covers.underway.absorb _, covers.closed⟩, ?_⟩
    · rw [fill, OpenChunk.absorb_length, covers.length, List.length_append]
    · rw [← joined, List.append_assoc]

theorem Holds.absorb (holds : Holds key hasher bytes) (input : List Byte) :
    Holds key (hasher.absorb input) (bytes ++ input) := by
  fun_induction Hasher.absorb hasher input generalizing bytes with
  | case1 hasher input more ih =>
      have filled := ih (holds.refill more)
      rw [List.append_assoc, List.take_append_drop] at filled
      exact filled
  | case2 hasher input empty =>
      rw [Decidable.not_not.mp empty, List.append_nil]
      exact holds

theorem Holds.top (holds : Holds key hasher bytes) :
    hasher.top = treeNode key keyedFlag 0 (pieces 1024 bytes) := by
  obtain ⟨chunks, last, covers, joined⟩ := holds
  have joins := @Subtrees.join_last _ _ _ _ covers.closed [last] 0 (Nat.zero_lt_succ 0)
    (Nat.le_refl 1) (Nat.one_dvd _)
  rw [tree_node_singleton, ← covers.underway.last_node] at joins
  rw [← joined, covers.cut.pieces_eq (Nat.zero_lt_succ 1023), ← joins, Hasher.top, covers.keyed]

theorem Holds.extract {key : Octets 32} (holds : Holds (keyChain key) hasher bytes) :
    hasher.extract = keyedHash key bytes := by
  rw [Hasher.extract, holds.top, keyed_hash_eq]

end ObliviousTransfer.Blake3.Hasher
