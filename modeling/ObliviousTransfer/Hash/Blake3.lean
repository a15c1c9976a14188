import ObliviousTransfer.Bytes.Endian

/-!
Keyed BLAKE3. The input is cut into chunks of 1024 bytes and each chunk into
blocks of 64; a chunk chains its blocks, and a binary tree joins the chunks.
The node on top is compressed once more as the root to give the output.
-/

namespace ObliviousTransfer.Blake3

abbrev Word := UInt32

/-- The eight words that a compression hands on. -/
abbrev Chain := Vector Word 8

def initialChain : Chain :=
  #v[0x6a09e667, 0xbb67ae85, 0x3c6ef372, 0xa54ff53a, 0x510e527f, 0x9b05688c, 0x1f83d9ab, 0x5be0cd19]

/-- Where each message word comes from in the round after. -/
def schedule : Vector (Fin 16) 16 := #v[2, 6, 3, 10, 7, 0, 4, 13, 1, 11, 12, 5, 9, 14, 15, 8]

def chunkStart : Word := 1
def chunkEnd : Word := 2
def parentFlag : Word := 4
def rootFlag : Word := 8
def keyedFlag : Word := 16

/-- A compression that has not been run: its output depends on whether it is the root. -/
structure Node where
  chain : Chain
  block : Vector Word 16
  counter : UInt64
  length : Word
  flags : Word

def rotateRight (word count : Word) : Word := (word >>> count) ||| (word <<< (32 - count))

def mix (state : Vector Word 16) (a b c d : Fin 16) (first second : Word) : Vector Word 16 :=
  let va := state[a] + state[b] + first
  let vd := rotateRight (state[d] ^^^ va) 16
  let vc := state[c] + vd
  let vb := rotateRight (state[b] ^^^ vc) 12
  let va := va + vb + second
  let vd := rotateRight (vd ^^^ va) 8
  let vc := vc + vd
  let vb := rotateRight (vb ^^^ vc) 7
  (((state.set a va).set b vb).set c vc).set d vd

def round (state block : Vector Word 16) : Vector Word 16 :=
  let state := mix state 0 4 8 12 block[0] block[1]
  let state := mix state 1 5 9 13 block[2] block[3]
  let state := mix state 2 6 10 14 block[4] block[5]
  let state := mix state 3 7 11 15 block[6] block[7]
  let state := mix state 0 5 10 15 block[8] block[9]
  let state := mix state 1 6 11 12 block[10] block[11]
  let state := mix state 2 7 8 13 block[12] block[13]
  mix state 3 4 9 14 block[14] block[15]

def permuteBlock (block : Vector Word 16) : Vector Word 16 := schedule.map fun index => block[index]

def rounds : Nat → Vector Word 16 → Vector Word 16 → Vector Word 16
  | 0, state, _ => state
  | count + 1, state, block => rounds count (round state block) (permuteBlock block)

def Node.compress (node : Node) : Chain :=
  let chain := node.chain
  let start : Vector Word 16 :=
    #v[chain[0], chain[1], chain[2], chain[3], chain[4], chain[5], chain[6], chain[7],
      initialChain[0], initialChain[1], initialChain[2], initialChain[3],
      node.counter.toUInt32, (node.counter >>> 32).toUInt32, node.length, node.flags]
  let state := rounds 7 start node.block
  Vector.ofFn fun index : Fin 8 => state[index.val] ^^^ state[index.val + 8]

def wordAt (bytes : Array Byte) (index : Nat) : Word :=
  let byteAt (offset : Nat) : Word := (bytes.getD (4 * index + offset) 0).toUInt32
  byteAt 0 ||| (byteAt 1 <<< 8) ||| (byteAt 2 <<< 16) ||| (byteAt 3 <<< 24)

def wordBytes (word : Word) : List Byte := littleEndian 4 word.toNat

/-- The words of a block, which zeros fill up. -/
def blockWords (bytes : List Byte) : Vector Word 16 :=
  let bytes := bytes.toArray
  Vector.ofFn fun index => wordAt bytes index.val

/-- A list cut into pieces of `size`, the last of which may be shorter. The empty list is one empty
piece. -/
def pieces (size : Nat) (bytes : List Byte) : List (List Byte) :=
  if _long : size ≠ 0 ∧ size < bytes.length then
    bytes.take size :: pieces size (bytes.drop size)
  else [bytes]
termination_by bytes.length
decreasing_by
  simp only [List.length_drop]
  omega

/-- The last block of a chunk as a node, with the blocks before it compressed into the chain. -/
def chunkNodeFrom (flags : Word) (counter : UInt64) : Chain → Word → List (List Byte) → Node
  | chain, start, [] => ⟨chain, blockWords [], counter, 0, flags ||| start ||| chunkEnd⟩
  | chain, start, [last] =>
      ⟨chain, blockWords last, counter, last.length.toUInt32, flags ||| start ||| chunkEnd⟩
  | chain, start, block :: rest =>
      let node : Node := ⟨chain, blockWords block, counter, 64, flags ||| start⟩
      chunkNodeFrom flags counter node.compress 0 rest

def chunkNode (key : Chain) (flags : Word) (counter : UInt64) (chunk : List Byte) : Node :=
  chunkNodeFrom flags counter key chunkStart (pieces 64 chunk)

def parentNode (key : Chain) (flags : Word) (left right : Chain) : Node :=
  ⟨key, (left ++ right : Vector Word (8 + 8)), 0, 64, flags ||| parentFlag⟩

def leftChunks (count : Nat) : Nat := 1 <<< Nat.log2 (count - 1)

theorem left_chunks_lt {count : Nat} (several : 2 ≤ count) : leftChunks count < count := by
  have bound := Nat.log2_self_le (n := count - 1) (by omega)
  rw [leftChunks, Nat.one_shiftLeft]
  omega

theorem left_chunks_pos (count : Nat) : 0 < leftChunks count := by
  rw [leftChunks, Nat.one_shiftLeft]
  exact Nat.two_pow_pos _

/-- The top of the tree over the chunks. The left part holds as many chunks as the largest power of
two that leaves at least one for the right. -/
def treeNode (key : Chain) (flags : Word) (counter : UInt64) (chunks : List (List Byte)) : Node :=
  if _several : 2 ≤ chunks.length then
    let count := leftChunks chunks.length
    let left := treeNode key flags counter (chunks.take count)
    let right := treeNode key flags (counter + count.toUInt64) (chunks.drop count)
    parentNode key flags left.compress right.compress
  else chunkNode key flags counter chunks.flatten
termination_by chunks.length
decreasing_by
  · have := left_chunks_lt _several
    simp only [List.length_take]
    omega
  · have := left_chunks_pos chunks.length
    simp only [List.length_drop]
    omega

theorem chain_bytes_length (chain : Chain) : (chain.toList.flatMap wordBytes).length = 32 := by
  simp [List.length_flatMap, wordBytes, little_endian_length, List.map_const']

def chainBytes (chain : Chain) : Octets 32 :=
  ⟨chain.toList.flatMap wordBytes, chain_bytes_length chain⟩

/-- The first 32 bytes of output for a key of 32 bytes. -/
def keyedHash (key : Octets 32) (input : List Byte) : Octets 32 :=
  let keyBytes := key.bytes.toArray
  let chain : Chain := Vector.ofFn fun index => wordAt keyBytes index.val
  let node := treeNode chain keyedFlag 0 (pieces 1024 input)
  chainBytes { node with flags := node.flags ||| rootFlag }.compress

end ObliviousTransfer.Blake3
