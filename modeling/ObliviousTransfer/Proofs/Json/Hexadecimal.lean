import ObliviousTransfer.Bytes.Hex
import ObliviousTransfer.Proofs.Fallible

/-!
Bytes are read from their hexadecimal digits, with letters of either size, and
from no other text, and so they are read from what was written.
-/

namespace ObliviousTransfer.Hex

def capital (place : Nat) : Char := Char.ofNat ('A'.toNat + place)

theorem to_lower_cases (character : Char) :
    character.toLower = character ∨ ∃ place < 26, character = capital place := by
  unfold Char.toLower
  split
  · next range =>
    right
    have low : 65 ≤ character.toNat := UInt32.le_iff_toNat_le.mp range.1
    have high : character.toNat ≤ 90 := UInt32.le_iff_toNat_le.mp range.2
    refine ⟨character.toNat - 65, by omega, ?_⟩
    change character = Char.ofNat (65 + (character.toNat - 65))
    rw [Nat.add_sub_cancel' low, Char.ofNat_toNat]
  · exact Or.inl rfl

theorem of_lower_digit (property : Char → Nat → Prop)
    (small : ∀ value < 16, property (digit value) value)
    (large : ∀ place < 26, ∀ value < 16, (capital place).toLower = digit value →
      property (capital place) value)
    {character : Char} {value : Nat} (bound : value < 16)
    (lower : character.toLower = digit value) : property character value := by
  rcases to_lower_cases character with same | ⟨place, letter, rfl⟩
  · rw [← same, lower]
    exact small value bound
  · exact large place letter value bound lower

theorem digit_value_of_lower {character : Char} {value : Nat} (bound : value < 16)
    (lower : character.toLower = digit value) : digitValue? character = some value := by
  apply of_lower_digit (fun character value => digitValue? character = some value) _ _ bound lower
  · decide
  · decide

theorem digit_one_byte {character : Char} {value : Nat} (bound : value < 16)
    (lower : character.toLower = digit value) : character.utf8Size = 1 := by
  apply of_lower_digit (fun character _ => character.utf8Size = 1) _ _ bound lower
  · decide
  · decide

theorem high_digit_lt (byte : Byte) : byte.toNat / 16 < 16 := by
  have small := byte.toNat_lt
  omega

theorem low_digit_lt (byte : Byte) : byte.toNat % 16 < 16 := Nat.mod_lt _ (by decide)

/-- The digits stand for the bytes, with letters of either size. -/
def Spells (digits : List Char) (bytes : List Byte) : Prop :=
  digits.map Char.toLower = encode bytes

theorem spells_encode (bytes : List Byte) : Spells (encode bytes) bytes := by
  have small : ∀ value < 16, (digit value).toLower = digit value := by decide
  induction bytes with
  | nil => rfl
  | cons byte rest ih =>
      change (digit (byte.toNat / 16)).toLower :: (digit (byte.toNat % 16)).toLower ::
        (encode rest).map Char.toLower = _
      rw [small _ (high_digit_lt byte), small _ (low_digit_lt byte), ih]
      rfl

theorem spells_cons {digits : List Char} {byte : Byte} {bytes : List Byte}
    (spells : Spells digits (byte :: bytes)) : ∃ high low others,
      digits = high :: low :: others ∧ high.toLower = digit (byte.toNat / 16) ∧
        low.toLower = digit (byte.toNat % 16) ∧ Spells others bytes := by
  obtain ⟨high, more, rfl, first, rest⟩ := List.map_eq_cons_iff.mp spells
  obtain ⟨low, others, rfl, second, rest⟩ := List.map_eq_cons_iff.mp rest
  exact ⟨high, low, others, rfl, first, second, rest⟩

theorem spells_nil {digits : List Char} (spells : Spells digits []) : digits = [] :=
  List.map_eq_nil_iff.mp spells

theorem spells_length {digits : List Char} {bytes : List Byte} (spells : Spells digits bytes) :
    digits.length = 2 * bytes.length := by
  induction bytes generalizing digits with
  | nil =>
      rw [spells_nil spells]
      rfl
  | cons byte bytes ih =>
      obtain ⟨high, low, others, rfl, _, _, rest⟩ := spells_cons spells
      rw [List.length_cons, List.length_cons, List.length_cons, ih rest]
      rfl

theorem spells_utf8_length {digits : List Char} {bytes : List Byte} (spells : Spells digits bytes) :
    utf8Length digits = 2 * bytes.length := by
  induction bytes generalizing digits with
  | nil =>
      rw [spells_nil spells]
      rfl
  | cons byte bytes ih =>
      obtain ⟨high, low, others, rfl, first, second, rest⟩ := spells_cons spells
      rw [utf8Length, utf8Length, digit_one_byte (high_digit_lt byte) first,
        digit_one_byte (low_digit_lt byte) second, ih rest, List.length_cons]
      omega

theorem decode_digit_of_lower (position : Nat) {character : Char} {value : Nat}
    (bound : value < 16) (lower : character.toLower = digit value) :
    decodeDigit position character = .ok value := by
  rw [decodeDigit, digit_value_of_lower bound lower]

theorem decode_pairs_of_spells (position : Nat) {digits : List Char} {bytes : List Byte}
    (spells : Spells digits bytes) : decodePairs position digits = .ok bytes := by
  induction bytes generalizing position digits with
  | nil =>
      rw [spells_nil spells]
      rfl
  | cons byte bytes ih =>
      obtain ⟨high, low, others, rfl, first, second, rest⟩ := spells_cons spells
      have halves : 16 * (byte.toNat / 16) + byte.toNat % 16 = byte.toNat := Nat.div_add_mod _ _
      rw [decodePairs, decode_digit_of_lower _ (high_digit_lt byte) first,
        decode_digit_of_lower _ (low_digit_lt byte) second, ih _ rest]
      change Except.ok (UInt8.ofNat (16 * (byte.toNat / 16) + byte.toNat % 16) :: bytes) = _
      rw [halves, UInt8.ofNat_toNat]

theorem decode_of_spells {digits : List Char} {bytes : List Byte} (spells : Spells digits bytes) :
    decode digits = .ok bytes := by
  have even : ¬utf8Length digits % 2 = 1 := by
    rw [spells_utf8_length spells]
    omega
  rw [decode, if_neg even, decode_pairs_of_spells 0 spells]

theorem lower_of_digit_value {character : Char} {value : Nat}
    (found : digitValue? character = some value) :
    value < 16 ∧ character.toLower = digit value := by
  have places (first count shift : Nat)
      (all : ∀ place < count, place + shift < 16 ∧
        (Char.ofNat (first + place)).toLower = digit (place + shift))
      (low : first ≤ character.toNat) (high : character.toNat < first + count)
      (same : character.toNat - first + shift = value) :
      value < 16 ∧ character.toLower = digit value := by
    have place := all (character.toNat - first) (by omega)
    rwa [Nat.add_sub_cancel' low, Char.ofNat_toNat, same] at place
  unfold digitValue? at found
  split at found
  · next range =>
    exact places 48 10 0 (by decide) (UInt32.le_iff_toNat_le.mp range.1)
      (Nat.lt_succ_of_le (UInt32.le_iff_toNat_le.mp range.2)) (Option.some.inj found)
  · split at found
    · next range =>
      exact places 97 6 10 (by decide) (UInt32.le_iff_toNat_le.mp range.1)
        (Nat.lt_succ_of_le (UInt32.le_iff_toNat_le.mp range.2)) (Option.some.inj found)
    · split at found
      · next range =>
        exact places 65 6 10 (by decide) (UInt32.le_iff_toNat_le.mp range.1)
          (Nat.lt_succ_of_le (UInt32.le_iff_toNat_le.mp range.2)) (Option.some.inj found)
      · cases found

theorem lower_of_decode_digit {position : Nat} {character : Char} {value : Nat}
    (decoded : decodeDigit position character = .ok value) :
    value < 16 ∧ character.toLower = digit value := by
  apply lower_of_digit_value
  unfold decodeDigit at decoded
  cases found : digitValue? character with
  | none =>
      rw [found] at decoded
      cases decoded
  | some other =>
      rw [found] at decoded
      cases decoded
      rfl

theorem encode_byte_digits {high low : Nat} (highBound : high < 16) (lowBound : low < 16) :
    encodeByte (UInt8.ofNat (16 * high + low)) = [digit high, digit low] := by
  have small : (16 * high + low) % 256 = 16 * high + low := Nat.mod_eq_of_lt (by omega)
  have upper : (16 * high + low) / 16 = high := by omega
  have lower : (16 * high + low) % 16 = low := by omega
  simp only [encodeByte, UInt8.toNat_ofNat', small, upper, lower, Nat.reducePow]

theorem spells_of_decode_pairs {position : Nat} {digits : List Char} {bytes : List Byte}
    (decoded : decodePairs position digits = .ok bytes) : Spells digits bytes := by
  induction position, digits using decodePairs.induct generalizing bytes with
  | case1 position =>
      cases decoded
      rfl
  | case2 position last =>
      rw [decodePairs] at decoded
      cases digit : decodeDigit position last with
      | error fault =>
          rw [digit] at decoded
          cases decoded
      | ok value =>
          rw [digit] at decoded
          cases decoded
  | case3 position high low rest ih =>
      rw [decodePairs] at decoded
      obtain ⟨upper, highDecoded, decoded⟩ := except_bind_ok_iff.mp decoded
      obtain ⟨lower, lowDecoded, decoded⟩ := except_bind_ok_iff.mp decoded
      obtain ⟨tail, restDecoded, decoded⟩ := except_bind_ok_iff.mp decoded
      cases decoded
      obtain ⟨highBound, highLower⟩ := lower_of_decode_digit highDecoded
      obtain ⟨lowBound, lowLower⟩ := lower_of_decode_digit lowDecoded
      have others : rest.map Char.toLower = encode tail := ih restDecoded
      change high.toLower :: low.toLower :: rest.map Char.toLower =
        encodeByte (UInt8.ofNat (16 * upper + lower)) ++ encode tail
      rw [encode_byte_digits highBound lowBound, highLower, lowLower, others]
      rfl

/-- The digits that are decoded to some bytes are those that spell them, in no other way. -/
theorem decode_ok_iff {digits : List Char} {bytes : List Byte} :
    decode digits = .ok bytes ↔ Spells digits bytes := by
  constructor
  · intro decoded
    unfold decode at decoded
    split at decoded
    · cases decoded
    · exact spells_of_decode_pairs decoded
  · exact decode_of_spells

theorem decode_encode (bytes : List Byte) : decode (encode bytes) = .ok bytes :=
  decode_of_spells (spells_encode bytes)

end ObliviousTransfer.Hex
