/-!
The permutation Keccak-f[1600] on 25 lanes of 64 bits, five rows of five.
-/

namespace ObliviousTransfer.Keccak

structure Row where
  lane0 : UInt64
  lane1 : UInt64
  lane2 : UInt64
  lane3 : UInt64
  lane4 : UInt64

structure Lanes where
  row0 : Row
  row1 : Row
  row2 : Row
  row3 : Row
  row4 : Row

def Row.toList (row : Row) : List UInt64 := [row.lane0, row.lane1, row.lane2, row.lane3, row.lane4]

def Lanes.toList (lanes : Lanes) : List UInt64 :=
  lanes.row0.toList ++ lanes.row1.toList ++ lanes.row2.toList ++ lanes.row3.toList ++
    lanes.row4.toList

def roundConstants : List UInt64 :=
  [0x0000000000000001, 0x0000000000008082, 0x800000000000808a, 0x8000000080008000,
    0x000000000000808b, 0x0000000080000001, 0x8000000080008081, 0x8000000000008009,
    0x000000000000008a, 0x0000000000000088, 0x0000000080008009, 0x000000008000000a,
    0x000000008000808b, 0x800000000000008b, 0x8000000000008089, 0x8000000000008003,
    0x8000000000008002, 0x8000000000000080, 0x000000000000800a, 0x800000008000000a,
    0x8000000080008081, 0x8000000000008080, 0x0000000080000001, 0x8000000080008008]

def rotateLeft (lane count : UInt64) : UInt64 := (lane <<< count) ||| (lane >>> (64 - count))

def Row.xor (left right : Row) : Row :=
  ⟨left.lane0 ^^^ right.lane0, left.lane1 ^^^ right.lane1, left.lane2 ^^^ right.lane2,
    left.lane3 ^^^ right.lane3, left.lane4 ^^^ right.lane4⟩

/-- Adds to every lane the parities of two neighbouring columns. -/
def mixColumns (lanes : Lanes) : Lanes :=
  let parity := (((lanes.row0.xor lanes.row1).xor lanes.row2).xor lanes.row3).xor lanes.row4
  let change : Row :=
    ⟨parity.lane4 ^^^ rotateLeft parity.lane1 1, parity.lane0 ^^^ rotateLeft parity.lane2 1,
      parity.lane1 ^^^ rotateLeft parity.lane3 1, parity.lane2 ^^^ rotateLeft parity.lane4 1,
      parity.lane3 ^^^ rotateLeft parity.lane0 1⟩
  ⟨lanes.row0.xor change, lanes.row1.xor change, lanes.row2.xor change, lanes.row3.xor change,
    lanes.row4.xor change⟩

/-- Turns every lane and moves it to its new place: what lands in column `x` of row `y` comes from
column `x + 3 * y` of row `x`. -/
def turnLanes : Lanes → Lanes
  | ⟨row0, row1, row2, row3, row4⟩ =>
      ⟨⟨row0.lane0, rotateLeft row1.lane1 44, rotateLeft row2.lane2 43, rotateLeft row3.lane3 21,
          rotateLeft row4.lane4 14⟩,
        ⟨rotateLeft row0.lane3 28, rotateLeft row1.lane4 20, rotateLeft row2.lane0 3,
          rotateLeft row3.lane1 45, rotateLeft row4.lane2 61⟩,
        ⟨rotateLeft row0.lane1 1, rotateLeft row1.lane2 6, rotateLeft row2.lane3 25,
          rotateLeft row3.lane4 8, rotateLeft row4.lane0 18⟩,
        ⟨rotateLeft row0.lane4 27, rotateLeft row1.lane0 36, rotateLeft row2.lane1 10,
          rotateLeft row3.lane2 15, rotateLeft row4.lane3 56⟩,
        ⟨rotateLeft row0.lane2 62, rotateLeft row1.lane3 55, rotateLeft row2.lane4 39,
          rotateLeft row3.lane0 41, rotateLeft row4.lane1 2⟩⟩

def Row.mix (row : Row) : Row :=
  ⟨row.lane0 ^^^ (~~~row.lane1 &&& row.lane2), row.lane1 ^^^ (~~~row.lane2 &&& row.lane3),
    row.lane2 ^^^ (~~~row.lane3 &&& row.lane4), row.lane3 ^^^ (~~~row.lane4 &&& row.lane0),
    row.lane4 ^^^ (~~~row.lane0 &&& row.lane1)⟩

def round (lanes : Lanes) (constant : UInt64) : Lanes :=
  let ⟨row0, row1, row2, row3, row4⟩ := turnLanes (mixColumns lanes)
  let first := row0.mix
  ⟨{ first with lane0 := first.lane0 ^^^ constant }, row1.mix, row2.mix, row3.mix, row4.mix⟩

def permute (lanes : Lanes) : Lanes := roundConstants.foldl round lanes

end ObliviousTransfer.Keccak
