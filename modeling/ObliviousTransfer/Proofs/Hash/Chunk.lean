import ObliviousTransfer.Hash.Hasher

/-!
A chunk under way. Whatever parts its bytes come in, the blocks that are compressed
are the full ones with more input behind them, so the block that is held is the
last node of the chunk as it would be cut all at once.
-/

namespace ObliviousTransfer.Blake3

/-- Full pieces and a last one, as a string is cut into them: only the last may be shorter, and it is
empty only if it is alone. -/
structure Cut (size : Nat) (full : List (List Byte)) (last : List Byte) : Prop where
  sized : ∀ piece ∈ full, piece.length = size
  last_le : last.length ≤ size
  last_ne : full ≠ [] → last ≠ []

namespace Cut

variable {size : Nat} {full : List (List Byte)} {last : List Byte}

theorem nil (size : Nat) : Cut size [] [] :=
  ⟨fun _ member => (nomatch member), Nat.zero_le size, fun full => absurd rfl full⟩

theorem tail {piece : List Byte} (cut : Cut size (piece :: full) last) : Cut size full last :=
  ⟨fun other member => cut.sized other (List.mem_cons_of_mem piece member), cut.last_le,
    fun _ => cut.last_ne (List.cons_ne_nil piece full)⟩

theorem fill (cut : Cut size full last) {part : List Byte}
    (fits : last.length + part.length ≤ size) : Cut size full (last ++ part) where
  sized := cut.sized
  last_le := by
    rw [List.length_append]
    exact fits
  last_ne := fun more => List.append_ne_nil_of_left_ne_nil (cut.last_ne more) part

theorem follow (cut : Cut size full last) (filled : last.length = size) {part : List Byte}
    (nonempty : part ≠ []) (fits : part.length ≤ size) : Cut size (full ++ [last]) part where
  sized := by
    intro piece member
    rcases List.mem_append.mp member with earlier | newest
    · exact cut.sized piece earlier
    · rw [List.mem_singleton.mp newest]
      exact filled
  last_le := fits
  last_ne := fun _ => nonempty

theorem pieces_eq (cut : Cut size full last) (positive : 0 < size) :
    pieces size (full.flatten ++ last) = full ++ [last] := by
  induction full with
  | nil =>
      have short : ¬(size ≠ 0 ∧ size < last.length) := fun long => by
        have := cut.last_le
        omega
      rw [List.flatten_nil, List.nil_append, pieces, dif_neg short, List.nil_append]
  | cons piece full ih =>
      have sized : piece.length = size := cut.sized piece List.mem_cons_self
      have nonempty := List.length_pos_iff.mpr (cut.last_ne (List.cons_ne_nil piece full))
      have long : size ≠ 0 ∧ size < (piece ++ (full.flatten ++ last)).length := by
        simp only [List.length_append]
        omega
      rw [List.flatten_cons, List.append_assoc, pieces, dif_pos long, List.take_left' sized,
        List.drop_left' sized, ih cut.tail, List.cons_append]

end Cut

/-- What the chain and the start flag of a chunk become with one more block that others follow. -/
def chainBlock (flags : Word) (counter : UInt64) : Chain × Word → List Byte → Chain × Word
  | (chain, start), block =>
      let node : Node := ⟨chain, blockWords block, counter, 64, flags ||| start⟩
      (node.compress, 0)

theorem chunk_node_from_append (flags : Word) (counter : UInt64) (full : List (List Byte))
    (last : List Byte) (chain : Chain) (start : Word) :
    chunkNodeFrom flags counter chain start (full ++ [last]) =
      let (chained, started) := full.foldl (chainBlock flags counter) (chain, start)
      ⟨chained, blockWords last, counter, last.length.toUInt32, flags ||| started ||| chunkEnd⟩ := by
  induction full generalizing chain start with
  | nil => rfl
  | cons block full ih =>
      have behind : full ++ [last] ≠ [] := List.append_ne_nil_of_right_ne_nil full (by simp)
      rw [List.cons_append, chunkNodeFrom, ih]
      · rfl
      · exact fun alone => behind alone

namespace OpenChunk

/-- The chunk has taken the blocks in `full` and holds back its last one. -/
structure Chains (key : Chain) (flags : Word) (index : Nat) (chunk : OpenChunk)
    (full : List (List Byte)) : Prop where
  indexed : chunk.index = index
  cut : Cut 64 full chunk.held
  chained : full.foldl (chainBlock flags index.toUInt64) (key, chunkStart) =
    (chunk.chain, chunk.startFlag)

def Holds (key : Chain) (flags : Word) (index : Nat) (chunk : OpenChunk) (bytes : List Byte) : Prop :=
  ∃ full, Chains key flags index chunk full ∧ full.flatten ++ chunk.held = bytes

variable {key : Chain} {flags : Word} {index : Nat} {chunk : OpenChunk} {bytes : List Byte}

theorem holds_start (key : Chain) (flags : Word) (index : Nat) :
    Holds key flags index (start key index) [] :=
  ⟨[], ⟨rfl, .nil 64, rfl⟩, rfl⟩

theorem Holds.last_node (holds : Holds key flags index chunk bytes) :
    chunk.lastNode flags = chunkNode key flags index.toUInt64 bytes := by
  obtain ⟨full, chains, joined⟩ := holds
  rw [chunkNode, ← joined, chains.cut.pieces_eq (Nat.zero_lt_succ 63), chunk_node_from_append,
    chains.chained, lastNode, chains.indexed]

/-- One pass of the loop: the held block gives way if it is full, and the input fills up the one that
is held then. -/
theorem Holds.refill (holds : Holds key flags index chunk bytes) {input : List Byte}
    (more : input ≠ []) :
    let ready := chunk.makeRoom flags
    Holds key flags index (ready.fill input) (bytes ++ input.take ready.room) := by
  intro ready
  obtain ⟨full, chains, joined⟩ := holds
  by_cases filled : chunk.held.length = 64
  · have emptied : ready = chunk.compressHeld flags := if_pos filled
    have taken : input.take 64 ≠ [] := fun none =>
      more ((List.take_eq_nil_iff.mp none).resolve_left (by decide))
    have follows := chains.cut.follow filled taken (List.length_take_le 64 input)
    rw [emptied]
    refine ⟨full ++ [chunk.held], ⟨chains.indexed, follows, ?_⟩, ?_⟩
    · rw [List.foldl_append, chains.chained, ← chains.indexed]
      rfl
    · rw [List.flatten_append, List.flatten_singleton, joined]
      rfl
  · have kept : ready = chunk := if_neg filled
    have fits : chunk.held.length + (input.take chunk.room).length ≤ 64 := by
      have := chunk.held_le
      simp only [List.length_take, room]
      omega
    rw [kept]
    refine ⟨full, ⟨chains.indexed, chains.cut.fill fits, chains.chained⟩, ?_⟩
    rw [← joined, List.append_assoc]
    rfl

theorem Holds.absorb (holds : Holds key flags index chunk bytes) (input : List Byte) :
    Holds key flags index (chunk.absorb flags input) (bytes ++ input) := by
  fun_induction OpenChunk.absorb flags chunk input generalizing bytes with
  | case1 chunk input more ih =>
      have filled := ih (holds.refill more)
      rw [List.append_assoc, List.take_append_drop] at filled
      exact filled
  | case2 chunk input empty =>
      rw [Decidable.not_not.mp empty, List.append_nil]
      exact holds

end OpenChunk

end ObliviousTransfer.Blake3
