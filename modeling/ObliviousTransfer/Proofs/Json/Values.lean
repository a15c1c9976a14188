import Mathlib.Tactic.SplitIfs
import ObliviousTransfer.Proofs.Fallible
import ObliviousTransfer.Proofs.Json.RoundTrip

/-!
Which values come out of a text, whatever the text is. A record that was read,
from an object in any order or from a list, has in each field a value that the
format of the field reads.
-/

namespace ObliviousTransfer.Json

variable {FieldFault Value Other Record Slots : Type}

def Format.Yields (format : Format FieldFault Value) (value : Value) : Prop :=
  ∃ input rest, format.read input = .ok (value, rest)

theorem Format.yields_of_decode {format : Format FieldFault Value} {input : List Char}
    {value : Value} (decoded : format.decode input = .ok value) : format.Yields value := by
  obtain ⟨⟨read, rest⟩, first, ends⟩ := except_bind_ok_iff.mp decoded
  simp only [] at ends
  split_ifs at ends
  cases ends
  exact ⟨input, rest, first⟩

theorem refuse_ne_ok {Result : Type} (expected : Expected) (input : List Char) (result : Result) :
    (refuse expected input : Except (Fault FieldFault) Result) ≠ .ok result := by
  unfold refuse
  split <;> exact fun same => nomatch same

theorem Format.text_yields {encode : Value → List Char}
    {decode : List Char → Except FieldFault Value} {value : Value}
    (yields : (Format.text encode decode).Yields value) : ∃ text, decode text = .ok value := by
  obtain ⟨input, rest, read⟩ := yields
  simp only [Format.text] at read
  split at read
  · obtain ⟨⟨text, after⟩, _, decoded⟩ := except_bind_ok_iff.mp read
    simp only [] at decoded
    split at decoded
    · next found =>
      cases decoded
      exact ⟨text, found⟩
    · cases decoded
  · exact absurd read (refuse_ne_ok _ _ _)

theorem Format.transport_yields {format : Format FieldFault Value} {forth : Value → Other}
    {back : Other → Value} {value : Other} (yields : (format.transport forth back).Yields value) :
    ∃ inner, format.Yields inner ∧ forth inner = value := by
  obtain ⟨input, rest, read⟩ := yields
  change (format.read input).map (fun parts => (forth parts.1, parts.2)) = _ at read
  cases result : format.read input with
  | error fault =>
      rw [result] at read
      cases read
  | ok pair =>
      rw [result] at read
      cases read
      exact ⟨pair.1, ⟨input, pair.2, result⟩, rfl⟩

namespace Fields

def Yields : {Record Slots : Type} → Fields FieldFault Record Slots → Record → Prop
  | _, _, .nil, _ => True
  | _, _, .field _ format rest, (value, values) => format.Yields value ∧ rest.Yields values

def Filled : {Record Slots : Type} → Fields FieldFault Record Slots → Slots → Prop
  | _, _, .nil, _ => True
  | _, _, .field _ format rest, (slot, slots) =>
      (∀ value, slot = some value → format.Yields value) ∧ rest.Filled slots

theorem filled_empty (fields : Fields FieldFault Record Slots) : fields.Filled fields.empty := by
  induction fields with
  | nil => trivial
  | field name format rest ih => exact ⟨fun _ none => (nomatch none), ih⟩

theorem read_member_filled {fields : Fields FieldFault Record Slots} {key input rest : List Char}
    {slots next : Slots} (filled : fields.Filled slots)
    (member : fields.readMember? key input slots = some (.ok (next, rest))) :
    fields.Filled next := by
  induction fields with
  | nil => cases member
  | field name format others ih =>
      obtain ⟨slot, slots⟩ := slots
      simp only [readMember?] at member
      split_ifs at member with named
      · cases slot with
        | some value => cases member
        | none =>
            obtain ⟨after, _, read⟩ := except_bind_ok_iff.mp (Option.some.inj member)
            obtain ⟨⟨value, left⟩, found, same⟩ := except_bind_ok_iff.mp read
            cases same
            refine ⟨?_, filled.2⟩
            rintro _ ⟨⟩
            exact ⟨after, left, found⟩
      · obtain ⟨outcome, later, same⟩ := Option.map_eq_some_iff.mp member
        cases outcome with
        | error fault => cases same
        | ok pair =>
            cases same
            exact ⟨filled.1, ih filled.2 later⟩

theorem complete_yields {fields : Fields FieldFault Record Slots} {slots : Slots} {record : Record}
    (filled : fields.Filled slots) (complete : fields.complete slots = .ok record) :
    fields.Yields record := by
  induction fields with
  | nil => trivial
  | field name format rest ih =>
      obtain ⟨slot, slots⟩ := slots
      cases slot with
      | none => cases complete
      | some value =>
          obtain ⟨values, others, same⟩ := except_bind_ok_iff.mp complete
          cases same
          exact ⟨filled.1 value rfl, ih filled.2 others⟩

theorem read_members_yields {fields : Fields FieldFault Record Slots} {fuel : Nat} {first : Bool}
    {slots : Slots} {input rest : List Char} {record : Record} (filled : fields.Filled slots)
    (read : fields.readMembers fuel first slots input = .ok (record, rest)) :
    fields.Yields record := by
  induction fuel generalizing first slots input with
  | zero => cases read
  | succ fuel ih =>
      obtain ⟨⟨key, after⟩, _, step⟩ := except_bind_ok_iff.mp read
      cases key with
      | none =>
          obtain ⟨whole, complete, same⟩ := except_bind_ok_iff.mp step
          cases same
          exact complete_yields filled complete
      | some key =>
          simp only [] at step
          split at step
          · next outcome member =>
            obtain ⟨⟨next, left⟩, same, more⟩ := except_bind_ok_iff.mp step
            exact ih (read_member_filled filled (same ▸ member)) more
          · obtain ⟨_, _, step⟩ := except_bind_ok_iff.mp step
            obtain ⟨_, _, step⟩ := except_bind_ok_iff.mp step
            exact ih filled step

theorem read_elements_yields {short : Nat → Fault FieldFault}
    {fields : Fields FieldFault Record Slots} {index : Nat} {input rest : List Char}
    {record : Record} (read : fields.readElements short index input = .ok (record, rest)) :
    fields.Yields record := by
  induction fields generalizing index input rest with
  | nil => trivial
  | field name format others ih =>
      obtain ⟨element, _, step⟩ := except_bind_ok_iff.mp read
      cases element with
      | none => cases step
      | some element =>
          obtain ⟨⟨value, after⟩, found, step⟩ := except_bind_ok_iff.mp step
          obtain ⟨⟨values, left⟩, later, same⟩ := except_bind_ok_iff.mp step
          cases same
          exact ⟨⟨element, after, found⟩, ih later⟩

end Fields

theorem Format.record_yields {name : String} {fields : Fields FieldFault Record Slots}
    {record : Record} (yields : (Format.record name fields).Yields record) :
    fields.Yields record := by
  obtain ⟨input, rest, read⟩ := yields
  simp only [Format.record] at read
  split at read
  · exact Fields.read_members_yields fields.filled_empty read
  · obtain ⟨⟨values, after⟩, elements, step⟩ := except_bind_ok_iff.mp read
    obtain ⟨_, _, same⟩ := except_bind_ok_iff.mp step
    cases same
    exact Fields.read_elements_yields elements
  · exact absurd read (refuse_ne_ok _ _ _)

end ObliviousTransfer.Json
