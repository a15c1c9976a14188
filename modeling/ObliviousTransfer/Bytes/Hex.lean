import ObliviousTransfer.Bytes.Utf8
import ObliviousTransfer.Text.Quoted

/-!
Bytes as hexadecimal text. Writing uses small letters and reading takes letters
of either size. A text that cannot be read is blamed on the number of its bytes
in UTF-8 or on the first of them that is no digit.
-/

namespace ObliviousTransfer.Hex

inductive Fault where
  | oddLength
  | badByte (byte : Byte) (position : Nat)
  deriving DecidableEq

/-- The bad byte is shown as the character with its code. -/
def Fault.message : Fault → String
  | .oddLength => "Odd number of digits"
  | .badByte byte position =>
      "Invalid character " ++ Text.quotedCharacter (Char.ofNat byte.toNat) ++
        " at position " ++ toString position

def digit (value : Nat) : Char := Nat.digitChar value

def encodeByte (byte : Byte) : List Char := [digit (byte.toNat / 16), digit (byte.toNat % 16)]

def encode (bytes : List Byte) : List Char := bytes.flatMap encodeByte

def encodeString (bytes : List Byte) : String := String.ofList (encode bytes)

def digitValue? (character : Char) : Option Nat :=
  if '0' ≤ character ∧ character ≤ '9' then some (character.toNat - '0'.toNat)
  else if 'a' ≤ character ∧ character ≤ 'f' then some (character.toNat - 'a'.toNat + 10)
  else if 'A' ≤ character ∧ character ≤ 'F' then some (character.toNat - 'A'.toNat + 10)
  else none

def decodeDigit (position : Nat) (character : Char) : Except Fault Nat :=
  match digitValue? character with
  | some value => .ok value
  | none => .error (.badByte (leadByte character) position)

/-- Reads pairs of digits. Up to the first bad character every character is one byte, so positions
count both. -/
def decodePairs (position : Nat) : List Char → Except Fault (List Byte)
  | [] => .ok []
  | [last] => do
      let _ ← decodeDigit position last
      .error .oddLength
  | high :: low :: rest => do
      let high ← decodeDigit position high
      let low ← decodeDigit (position + 1) low
      let tail ← decodePairs (position + 2) rest
      .ok (UInt8.ofNat (16 * high + low) :: tail)

def decode (text : List Char) : Except Fault (List Byte) :=
  if utf8Length text % 2 = 1 then .error .oddLength else decodePairs 0 text

end ObliviousTransfer.Hex
