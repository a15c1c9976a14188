import ObliviousTransfer.Hash.Blake3

/-!
Keyed BLAKE3 of input that comes in parts. Of what has come, only the last block
is kept as it is: the blocks before it in its chunk are compressed into a chain,
and the chunks before it into the tops of subtrees, one for each bit of their count.
-/

namespace ObliviousTransfer.Blake3

def keyChain (key : Octets 32) : Chain :=
  let keyBytes := key.bytes.toArray
  Vector.ofFn fun index => wordAt keyBytes index.val

def Node.output (node : Node) : Octets 32 :=
  chainBytes { node with flags := node.flags ||| rootFlag }.compress

theorem keyed_hash_eq (key : Octets 32) (input : List Byte) :
    keyedHash key input = (treeNode (keyChain key) keyedFlag 0 (pieces 1024 input)).output := rfl

theorem length_drop_lt {count : Nat} {input : List Byte} (positive : 0 < count)
    (nonempty : input ≠ []) : (input.drop count).length < input.length := by
  have := List.length_pos_iff.mpr nonempty
  simp only [List.length_drop]
  omega

/-- A chunk under way. Its last block is held back, also when it is full, until more input comes. -/
structure OpenChunk where
  chain : Chain
  /-- How many chunks are before it. -/
  index : Nat
  /-- How many of its blocks are in the chain. -/
  compressed : Nat
  held : List Byte
  held_le : held.length ≤ 64

namespace OpenChunk

def start (key : Chain) (index : Nat) : OpenChunk := ⟨key, index, 0, [], Nat.zero_le 64⟩

def length (chunk : OpenChunk) : Nat := 64 * chunk.compressed + chunk.held.length

def startFlag (chunk : OpenChunk) : Word := if chunk.compressed = 0 then chunkStart else 0

def innerNode (flags : Word) (chunk : OpenChunk) : Node :=
  ⟨chunk.chain, blockWords chunk.held, chunk.index.toUInt64, 64, flags ||| chunk.startFlag⟩

def lastNode (flags : Word) (chunk : OpenChunk) : Node :=
  ⟨chunk.chain, blockWords chunk.held, chunk.index.toUInt64, chunk.held.length.toUInt32,
    flags ||| chunk.startFlag ||| chunkEnd⟩

def compressHeld (flags : Word) (chunk : OpenChunk) : OpenChunk :=
  ⟨(chunk.innerNode flags).compress, chunk.index, chunk.compressed + 1, [], Nat.zero_le 64⟩

def makeRoom (flags : Word) (chunk : OpenChunk) : OpenChunk :=
  if chunk.held.length = 64 then chunk.compressHeld flags else chunk

def room (chunk : OpenChunk) : Nat := 64 - chunk.held.length

def fill (chunk : OpenChunk) (input : List Byte) : OpenChunk :=
  { chunk with
    held := chunk.held ++ input.take chunk.room
    held_le := by
      have := chunk.held_le
      simp only [List.length_append, List.length_take, room]
      omega }

theorem make_room_length (flags : Word) (chunk : OpenChunk) :
    (chunk.makeRoom flags).length = chunk.length := by
  unfold makeRoom
  split
  · simp only [length, compressHeld, List.length_nil]
    omega
  · rfl

theorem make_room_pos (flags : Word) (chunk : OpenChunk) : 0 < (chunk.makeRoom flags).room := by
  have bound := chunk.held_le
  unfold makeRoom
  split
  · exact Nat.zero_lt_succ 63
  · simp only [room]
    omega

theorem fill_length (chunk : OpenChunk) (input : List Byte) :
    (chunk.fill input).length = chunk.length + min chunk.room input.length := by
  simp only [length, fill, List.length_append, List.length_take]
  omega

def absorb (flags : Word) (chunk : OpenChunk) (input : List Byte) : OpenChunk :=
  if _more : input ≠ [] then
    absorb flags ((chunk.makeRoom flags).fill input) (input.drop (chunk.makeRoom flags).room)
  else chunk
termination_by input.length
decreasing_by exact length_drop_lt (make_room_pos flags chunk) _more

theorem absorb_length (flags : Word) (chunk : OpenChunk) (input : List Byte) :
    (chunk.absorb flags input).length = chunk.length + input.length := by
  fun_induction absorb flags chunk input with
  | case1 chunk input more ih =>
      have filled := fill_length (chunk.makeRoom flags) input
      rw [make_room_length] at filled
      rw [ih, filled, List.length_drop]
      omega
  | case2 chunk input empty =>
      rw [Decidable.not_not.mp empty]
      rfl

end OpenChunk

structure Hasher where
  key : Chain
  chunk : OpenChunk
  chunk_le : chunk.length ≤ 1024
  /-- The tops of the subtrees over the chunks before, the one next to the chunk first. -/
  subtrees : List Chain

/-- Puts the top of a subtree after those before it. Two subtrees of one size are joined, and `count`
is how many of the last size there are from the start. -/
def addSubtree (key : Chain) (flags : Word) : List Chain → Chain → Nat → List Chain
  | [], top, _ => [top]
  | left :: rest, top, count =>
      if count % 2 = 0 then
        addSubtree key flags rest (parentNode key flags left top).compress (count / 2)
      else top :: left :: rest

namespace Hasher

def start (key : Chain) : Hasher := ⟨key, .start key 0, Nat.zero_le 1024, []⟩

def keyed (key : Octets 32) : Hasher := start (keyChain key)

def reset (hasher : Hasher) : Hasher := start hasher.key

def closeChunk (hasher : Hasher) : Hasher :=
  let count := hasher.chunk.index + 1
  let top := (hasher.chunk.lastNode keyedFlag).compress
  ⟨hasher.key, .start hasher.key count, Nat.zero_le 1024,
    addSubtree hasher.key keyedFlag hasher.subtrees top count⟩

def makeRoom (hasher : Hasher) : Hasher :=
  if hasher.chunk.length = 1024 then hasher.closeChunk else hasher

def room (hasher : Hasher) : Nat := 1024 - hasher.chunk.length

def fill (hasher : Hasher) (input : List Byte) : Hasher :=
  { hasher with
    chunk := hasher.chunk.absorb keyedFlag (input.take hasher.room)
    chunk_le := by
      have := hasher.chunk_le
      simp only [OpenChunk.absorb_length, List.length_take, room]
      omega }

theorem make_room_pos (hasher : Hasher) : 0 < hasher.makeRoom.room := by
  have bound := hasher.chunk_le
  unfold makeRoom
  split
  · exact Nat.zero_lt_succ 1023
  · simp only [room]
    omega

def absorb (hasher : Hasher) (input : List Byte) : Hasher :=
  if _more : input ≠ [] then
    absorb (hasher.makeRoom.fill input) (input.drop hasher.makeRoom.room)
  else hasher
termination_by input.length
decreasing_by exact length_drop_lt (make_room_pos hasher) _more

def top (hasher : Hasher) : Node :=
  hasher.subtrees.foldl (fun node left => parentNode hasher.key keyedFlag left node.compress)
    (hasher.chunk.lastNode keyedFlag)

def extract (hasher : Hasher) : Octets 32 := hasher.top.output

end Hasher

end ObliviousTransfer.Blake3
