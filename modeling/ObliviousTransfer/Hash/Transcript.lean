import ObliviousTransfer.Bytes.Endian
import ObliviousTransfer.Bytes.Utf8
import ObliviousTransfer.Hash.Keccak

/-!
A transcript that two parties feed with the same labelled messages, and from
which both draw the same challenges. It is a duplex sponge: bytes are added to
the leading part of a permuted state, and a challenge is read from there.
-/

namespace ObliviousTransfer

/-- The bytes of the state that messages and challenges touch. -/
def transcriptRate : Nat := 166

structure Transcript where
  state : Vector Byte 200
  position : Fin transcriptRate
  /-- One past the place where the current operation began, zero if none did. -/
  operationStart : Byte

namespace Transcript

inductive Operation where
  | labelling
  | absorbing
  | challenging

def Operation.flags : Operation → Byte
  | .labelling => 0x12
  | .absorbing => 0x02
  | .challenging => 0x07

def laneOf (state : Vector Byte 200) (lane : Nat) : UInt64 :=
  UInt64.ofNat (littleEndianValue ((state.toList.drop (8 * lane)).take 8))

def lanesOf (state : Vector Byte 200) : Keccak.Lanes :=
  let row (first : Nat) : Keccak.Row :=
    ⟨laneOf state first, laneOf state (first + 1), laneOf state (first + 2),
      laneOf state (first + 3), laneOf state (first + 4)⟩
  ⟨row 0, row 5, row 10, row 15, row 20⟩

def bytesOf (lanes : Keccak.Lanes) : Vector Byte 200 :=
  ⟨⟨lanes.toList.flatMap fun lane => littleEndian 8 lane.toNat⟩,
    by simp [Keccak.Lanes.toList, Keccak.Row.toList, little_endian_length]⟩

def permute (state : Vector Byte 200) : Vector Byte 200 := bytesOf (Keccak.permute (lanesOf state))

/-- Closes the current block and permutes the state. -/
def flush (transcript : Transcript) (position : Nat) (inside : position ≤ transcriptRate) :
    Transcript :=
  have bound : position ≤ 166 := inside
  let closed := transcript.state[position] ^^^ transcript.operationStart
  let state := transcript.state.set position closed
  let state := state.set (position + 1) (state[position + 1] ^^^ 0x04)
  let state := state.set 167 (state[167] ^^^ 0x80)
  ⟨permute state, ⟨0, by decide⟩, 0⟩

/-- Writes a byte of the state and moves on, permuting when the block is full. -/
def step (transcript : Transcript) (byte : Byte) : Transcript :=
  have inState : transcript.position.val < 200 := by
    have := transcript.position.isLt
    unfold transcriptRate at this
    omega
  let written : Transcript :=
    { transcript with state := transcript.state.set transcript.position.val byte }
  if room : transcript.position.val + 1 < transcriptRate then
    { written with position := ⟨transcript.position.val + 1, room⟩ }
  else written.flush transcriptRate (Nat.le_refl _)

def current (transcript : Transcript) : Byte :=
  have inState : transcript.position.val < 200 := by
    have := transcript.position.isLt
    unfold transcriptRate at this
    omega
  transcript.state.get ⟨transcript.position.val, inState⟩

def absorb (transcript : Transcript) (bytes : List Byte) : Transcript :=
  bytes.foldl (fun transcript byte => transcript.step (transcript.current ^^^ byte)) transcript

/-- Reads bytes of the state, leaving zeros behind. -/
def squeeze : Nat → Transcript → List Byte × Transcript
  | 0, transcript => ([], transcript)
  | count + 1, transcript =>
      let (rest, last) := squeeze count (transcript.step 0)
      (transcript.current :: rest, last)

/-- Opens an operation. A challenge starts in a fresh block. -/
def start (transcript : Transcript) (operation : Operation) : Transcript :=
  let before := transcript.operationStart
  let opened : Transcript :=
    { transcript with operationStart := UInt8.ofNat (transcript.position.val + 1) }
  let written := opened.absorb [before, operation.flags]
  match operation with
  | .challenging =>
      if written.position.val = 0 then written
      else written.flush written.position.val (Nat.le_of_lt written.position.isLt)
  | _ => written

def announce (transcript : Transcript) (label : List Byte) (length : Nat) : Transcript :=
  ((transcript.start .labelling).absorb label).absorb (littleEndian 4 length)

def append (transcript : Transcript) (label message : List Byte) : Transcript :=
  ((transcript.announce label message.length).start .absorbing).absorb message

def challenge (transcript : Transcript) (label : List Byte) (length : Nat) :
    List Byte × Transcript :=
  ((transcript.announce label length).start .challenging).squeeze length

def blank : Transcript :=
  let header : List Byte := [1, 168, 1, 0, 1, 96] ++ utf8 "STROBEv1.0.2"
  let state : Vector Byte 200 := Vector.ofFn fun index => header.getD index.val 0
  let empty : Transcript := ⟨permute state, ⟨0, by decide⟩, 0⟩
  (empty.start .labelling).absorb (utf8 "Merlin v1.0")

def new (name : List Byte) : Transcript := blank.append (utf8 "dom-sep") name

end Transcript

end ObliviousTransfer
