/-!
Byte strings of a fixed length. Pads, nonces, encoded points and encoded
scalars are all of this kind, and the bitwise sum masks one with another.
-/

namespace ObliviousTransfer

abbrev Byte := UInt8

/-- A byte string of exactly `size` bytes. -/
@[ext]
structure Octets (size : Nat) where
  bytes : List Byte
  length_eq : bytes.length = size
  deriving DecidableEq

namespace Octets

def ofList? (size : Nat) (bytes : List Byte) : Option (Octets size) :=
  if fits : bytes.length = size then some ⟨bytes, fits⟩ else none

theorem of_list_bytes {size : Nat} (value : Octets size) :
    ofList? size value.bytes = some value := by
  simp [ofList?, value.length_eq]

theorem of_list_eq_some_iff {size : Nat} {bytes : List Byte} {value : Octets size} :
    ofList? size bytes = some value ↔ bytes = value.bytes := by
  constructor
  · intro found
    unfold ofList? at found
    split at found
    · cases found
      rfl
    · cases found
  · intro same
    rw [same, of_list_bytes]

theorem of_list_eq_none_iff {size : Nat} {bytes : List Byte} :
    ofList? size bytes = none ↔ bytes.length ≠ size := by
  simp [ofList?]

def zero (size : Nat) : Octets size := ⟨List.replicate size 0, List.length_replicate⟩

def append {first second : Nat} (left : Octets first) (right : Octets second) :
    Octets (first + second) :=
  ⟨left.bytes ++ right.bytes, by simp [left.length_eq, right.length_eq]⟩

def leading {first second : Nat} (value : Octets (first + second)) : Octets first :=
  ⟨value.bytes.take first, by simp [value.length_eq]⟩

def trailing {first second : Nat} (value : Octets (first + second)) : Octets second :=
  ⟨value.bytes.drop first, by simp [value.length_eq]⟩

theorem leading_append {first second : Nat} (left : Octets first) (right : Octets second) :
    (left.append right).leading = left := by
  ext1
  simp [leading, append, ← left.length_eq]

theorem trailing_append {first second : Nat} (left : Octets first) (right : Octets second) :
    (left.append right).trailing = right := by
  ext1
  simp [trailing, append, ← left.length_eq]

theorem append_leading_trailing {first second : Nat} (value : Octets (first + second)) :
    value.leading.append value.trailing = value := by
  ext1
  simp [leading, trailing, append]

theorem append_inj {first second : Nat} {left left' : Octets first} {right right' : Octets second} :
    left.append right = left'.append right' ↔ left = left' ∧ right = right' := by
  constructor
  · intro same
    constructor
    · rw [← leading_append left right, same, leading_append]
    · rw [← trailing_append left right, same, trailing_append]
  · intro same
    rw [same.1, same.2]

def xor {size : Nat} (left right : Octets size) : Octets size :=
  ⟨List.zipWith (fun a b => a ^^^ b) left.bytes right.bytes, by
    simp [left.length_eq, right.length_eq]⟩

theorem xor_comm {size : Nat} (left right : Octets size) : left.xor right = right.xor left := by
  ext1
  exact List.zipWith_comm_of_comm (fun a b => UInt8.xor_comm a b)

theorem xor_xor_cancel {size : Nat} (left right : Octets size) :
    (left.xor right).xor right = left := by
  ext1
  apply List.ext_getElem
  · simp [xor, left.length_eq, right.length_eq]
  · intro index _ _
    simp only [xor, List.getElem_zipWith]
    rw [UInt8.xor_assoc, UInt8.xor_self, UInt8.xor_zero]

theorem xor_eq_iff {size : Nat} {left right sum : Octets size} :
    left.xor right = sum ↔ left = sum.xor right := by
  constructor
  · intro same
    rw [← same, xor_xor_cancel]
  · intro same
    rw [same, xor_xor_cancel]

theorem xor_right_inj {size : Nat} {left right mask : Octets size} :
    left.xor mask = right.xor mask ↔ left = right := by
  rw [xor_eq_iff, xor_xor_cancel]

theorem xor_left_inj {size : Nat} {mask left right : Octets size} :
    mask.xor left = mask.xor right ↔ left = right := by
  rw [xor_comm mask left, xor_comm mask right, xor_right_inj]

/-- A sum used as a mask leaves its second part exactly on its first part. -/
theorem xor_xor_eq_iff {size : Nat} {value first second : Octets size} :
    value.xor (first.xor second) = second ↔ value = first := by
  rw [xor_eq_iff, xor_comm second, xor_xor_cancel]

end Octets

end ObliviousTransfer
