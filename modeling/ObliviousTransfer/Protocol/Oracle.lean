import ObliviousTransfer.Hash.Blake3
import ObliviousTransfer.Protocol.Failure

/-!
A keyed hash that is fed piece by piece. Its state is the key and the bytes fed
since it was last reset, and its output is the hash of those bytes.
-/

namespace ObliviousTransfer

/-- The length of a pad, of a challenge and of a commitment. -/
def padBytes : Nat := 32

abbrev Pad := Octets padBytes

/-- The hash under a key. The protocol can be run with any. -/
class KeyedHash where
  hash : Octets nonceBytes → List Byte → Pad

instance : KeyedHash := ⟨Blake3.keyedHash⟩

structure Oracle where
  key : Octets nonceBytes
  absorbed : List Byte
  deriving DecidableEq

namespace Oracle

/-- A fresh oracle under a nonce, which must have 32 bytes. -/
def keyed (nonce : List Byte) : Except Failure Oracle :=
  match Octets.ofList? nonceBytes nonce with
  | some key => .ok ⟨key, []⟩
  | none => .error (.nonceLength nonce.length)

/-- The hash of an input under the key, whatever has been fed before. -/
def hash [KeyedHash] (oracle : Oracle) (input : List Byte) : Pad :=
  KeyedHash.hash oracle.key input

def reset (oracle : Oracle) : Oracle := { oracle with absorbed := [] }

def absorb (oracle : Oracle) (input : List Byte) : Oracle :=
  { oracle with absorbed := oracle.absorbed ++ input }

def extract [KeyedHash] (oracle : Oracle) : Pad := oracle.hash oracle.absorbed

def digest [KeyedHash] (oracle : Oracle) (input : List Byte) : Pad × Oracle :=
  let fed := oracle.reset.absorb input
  (fed.extract, fed)

inductive Instruction where
  | absorb (input : List Byte)
  | extract
  | reset
  | digest (input : List Byte)
  | duplicate

inductive Answer where
  | none
  | output (pad : Pad)
  | index (position : Nat)

def perform [KeyedHash] (row : List Oracle) (place : Nat) (instruction : Instruction) :
    Option (Answer × List Oracle) :=
  match row[place]? with
  | none => none
  | some oracle =>
      match instruction with
      | .absorb input => some (.none, row.set place (oracle.absorb input))
      | .extract => some (.output oracle.extract, row)
      | .reset => some (.none, row.set place oracle.reset)
      | .digest input =>
          let (pad, fed) := oracle.digest input
          some (.output pad, row.set place fed)
      | .duplicate => some (.index row.length, row ++ [oracle])

end Oracle

end ObliviousTransfer
