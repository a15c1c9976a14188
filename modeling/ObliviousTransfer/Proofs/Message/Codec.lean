import ObliviousTransfer.Proofs.Message.Wire

/-!
The byte form of a message is exact: the messages are the byte strings of one
length, and any other is refused for its length alone. An object with a string
of digits for each field is read as the message whose byte form is what these
spell, one after the other in the order of declaration.
-/

namespace ObliviousTransfer

open Json (IsText IsObject Stands)

namespace Json

def gathered : List (Nat × List Char) → Option (List Byte)
  | [] => some []
  | (size, digits) :: parts => do
      let first ← spelled? size digits
      let others ← gathered parts
      some (first.bytes ++ others)

theorem gathered_of_spells {parts : List (Nat × List Char)} {bytes : List (List Byte)}
    (spelled : List.Forall₂ (fun (size, digits) part => Hex.Spells digits part ∧ part.length = size)
      parts bytes) : gathered parts = some bytes.flatten := by
  induction spelled with
  | nil => rfl
  | @cons declared part parts bytes first others ih =>
      obtain ⟨size, digits⟩ := declared
      obtain ⟨spells, fits⟩ := first
      have found : spelled? size digits = some ⟨part, fits⟩ := spelled_eq_some_iff.mpr spells
      rw [gathered, found, ih]
      rfl

theorem gathered_eq_none {parts : List (Nat × List Char)} {size : Nat} {digits : List Char}
    (member : (size, digits) ∈ parts) (wrong : digits.length ≠ 2 * size) :
    gathered parts = none := by
  induction parts with
  | nil => cases member
  | cons first parts ih =>
      rcases List.mem_cons.mp member with rfl | later
      · have missing : spelled? size digits = none := by
          cases found : spelled? size digits with
          | none => rfl
          | some value =>
              have spells := spelled_eq_some_iff.mp found
              rw [Hex.spells_length spells, value.length_eq] at wrong
              exact absurd rfl wrong
        rw [gathered, missing]
        rfl
      · rw [gathered, ih later]
        cases spelled? first.1 first.2 <;> rfl

theorem gathered_append (first others : List (Nat × List Char)) :
    gathered (first ++ others) = (gathered first).bind fun front =>
      (gathered others).map fun back => front ++ back := by
  induction first with
  | nil =>
      rw [List.nil_append, gathered, Option.bind_some]
      exact Option.map_id'.symm
  | cons part first ih =>
      obtain ⟨size, digits⟩ := part
      rw [List.cons_append, gathered, gathered, ih]
      cases spelled? size digits with
      | none => rfl
      | some value => cases gathered first <;> cases gathered others <;> simp [bind]

/-- A text of the kind is read as the value whose bytes its strings spell, or refused if they do not
have their lengths. -/
def Format.Gathers {Value : Type} (format : Format FieldFault Value) (kind : List Char → Prop)
    (parts : List (Nat × List Char)) (bytes : Value → List Byte) : Prop :=
  ∃ meant, format.Understands kind meant ∧ meant.map bytes = gathered parts

def Fields.Gathers {Record Slots : Type} (fields : Fields FieldFault Record Slots)
    (wanted : List (String × (List Char → Prop))) (parts : List (Nat × List Char))
    (bytes : Record → List Byte) : Prop :=
  ∃ slots, fields.Understands wanted slots ∧
    (fields.complete slots).toOption.map bytes = gathered parts

theorem octets_gathers (size : Nat) (digits : List Char) :
    (octets size).Gathers (IsText digits) [(size, digits)] Octets.bytes := by
  refine ⟨_, octets_understands size digits, ?_⟩
  rw [gathered]
  cases spelled? size digits with
  | none => rfl
  | some value => exact congrArg some (List.append_nil _).symm

theorem Fields.gathers_nil :
    (Fields.nil : Fields FieldFault Unit Unit).Gathers [] [] fun _ => [] :=
  ⟨(), rfl, rfl⟩

theorem Fields.gathers_field {Value Record Slots : Type} {format : Format FieldFault Value}
    {fields : Fields FieldFault Record Slots} {kind : List Char → Prop}
    {wanted : List (String × (List Char → Prop))} {parts others : List (Nat × List Char)}
    {bytes : Value → List Byte} {rest : Record → List Byte} (name : String)
    (first : format.Gathers kind parts bytes) (later : fields.Gathers wanted others rest) :
    (Fields.field name format fields).Gathers ((name, kind) :: wanted) (parts ++ others)
      fun (value, values) => bytes value ++ rest values := by
  obtain ⟨slot, understands, same⟩ := first
  obtain ⟨slots, othersUnderstand, othersSame⟩ := later
  refine ⟨(slot, slots), ⟨_, _, rfl, understands, othersUnderstand⟩, ?_⟩
  rw [gathered_append, ← same, ← othersSame]
  cases slot with
  | none => rfl
  | some value =>
      change (fields.complete slots >>= fun values => _).toOption.map _ = _
      cases fields.complete slots <;> rfl

theorem Format.record_gathers {Record Slots : Type} {fields : Fields FieldFault Record Slots}
    (record : String) (named : fields.WellNamed) {wanted : List (String × (List Char → Prop))}
    {parts : List (Nat × List Char)} {bytes : Record → List Byte}
    (gathers : fields.Gathers wanted parts bytes) :
    (Format.record record fields).Gathers (IsObject wanted) parts bytes := by
  obtain ⟨slots, understands, same⟩ := gathers
  exact ⟨_, Format.record_understands named understands, same⟩

theorem Format.transport_gathers {Value Other : Type} {format : Format FieldFault Value}
    {kind : List Char → Prop} {parts : List (Nat × List Char)} {bytes : Value → List Byte}
    {otherBytes : Other → List Byte} {forth : Value → Other} {back : Other → Value}
    (gathers : format.Gathers kind parts bytes)
    (same : ∀ value, otherBytes (forth value) = bytes value) :
    (format.transport forth back).Gathers kind parts otherBytes := by
  obtain ⟨meant, understands, whole⟩ := gathers
  refine ⟨_, Format.transport_understands understands forth back, ?_⟩
  rw [← whole, Option.map_map]
  exact congrArg (Option.map · meant) (funext same)

end Json

namespace Wire

variable {Message : Type}

/-- The byte strings of one length are the messages, and the others are refused with both lengths
under the name of the whole. Neither layout of the JSON form loses anything. -/
structure Exact (wire : Wire Message) (what : String) (size : Nat) : Prop where
  accepts : ∀ bytes, (∃ message, wire.decode bytes = .ok message) ↔ bytes.length = size
  decode_encode : ∀ message, wire.decode (wire.encode message).bytes = .ok message
  encode_decode : ∀ bytes message, wire.decode bytes = .ok message →
    (wire.encode message).bytes = bytes
  refuses : ∀ bytes failure, wire.decode bytes = .error failure →
    bytes.length ≠ size ∧ failure.kind = .deserialization ∧
      failure.message = "Deserialization error: Invalid " ++ what ++ " length: expected " ++
        toString size ++ ", got " ++ toString bytes.length
  load_save : ∀ layout message,
    Json.load wire.format (Json.save wire.format layout message) = .ok message

/-- The strings of digits, each with the number of bytes it should have, spell the byte form of the
message that such a text is read as. One string of another length is enough to refuse the text. -/
structure Assembles (wire : Wire Message) (kind : List Char → Prop)
    (parts : List (Nat × List Char)) : Prop where
  loads : ∀ text, Stands kind text → ∀ bytes,
    List.Forall₂ (fun (size, digits) part => Hex.Spells digits part ∧ part.length = size)
      parts bytes →
    ∃ message, Json.load wire.format text = .ok message ∧
      (wire.encode message).bytes = bytes.flatten
  refuses : ∀ text, Stands kind text → ∀ size digits, (size, digits) ∈ parts →
    digits.length ≠ 2 * size → ∃ failure, Json.load wire.format text = .error failure

theorem wire_length_message (part : WirePart) (expected actual : Nat) :
    (Failure.wireLength part expected actual).message = "Deserialization error: Invalid " ++
      part.name ++ " length: expected " ++ toString expected ++ ", got " ++ toString actual := by
  have joined (front expected actual : String) :
      front ++ " length: " ++ ("expected " ++ expected ++ ", got " ++ actual) =
        front ++ " length: expected " ++ expected ++ ", got " ++ actual := by
    have words : " length: " ++ "expected " = " length: expected " := rfl
    rw [← words]
    simp only [String.append_assoc]
  exact joined _ _ _

theorem exact_of_receive {wire : Wire Message} {part : WirePart}
    {make : Octets wire.size → Message}
    (decodes : ∀ bytes, wire.decode bytes = (receive part wire.size bytes).map make)
    (restored : ∀ whole, wire.encode (make whole) = whole) (lossless : wire.Lossless) :
    wire.Exact part.name wire.size := by
  have right (whole : Octets wire.size) : wire.decode whole.bytes = .ok (make whole) := by
    rw [decodes, receive_bytes]
    rfl
  have wrong {bytes : List Byte} (other : bytes.length ≠ wire.size) :
      wire.decode bytes = .error (.wireLength part wire.size bytes.length) := by
    rw [decodes, receive_refused part other]
    rfl
  constructor
  · intro bytes
    constructor
    · rintro ⟨message, accepted⟩
      by_contra other
      rw [wrong other] at accepted
      cases accepted
    · intro fits
      exact ⟨make ⟨bytes, fits⟩, right ⟨bytes, fits⟩⟩
  · exact lossless.decode_encode
  · intro bytes message accepted
    by_cases fits : bytes.length = wire.size
    · have same := (right ⟨bytes, fits⟩).symm.trans accepted
      rw [← Except.ok.inj same, restored]
    · rw [wrong fits] at accepted
      cases accepted
  · intro bytes failure refused
    by_cases fits : bytes.length = wire.size
    · have same := (right ⟨bytes, fits⟩).symm.trans refused
      cases same
    · have same := Except.error.inj ((wrong fits).symm.trans refused)
      rw [← same]
      exact ⟨fits, rfl, wire_length_message part wire.size bytes.length⟩
  · intro layout message
    exact Json.load_save (lossless.restores message) layout

theorem assembles_of_gathers {wire : Wire Message} {kind : List Char → Prop}
    {parts : List (Nat × List Char)}
    (gathers : wire.format.Gathers kind parts fun message => (wire.encode message).bytes) :
    wire.Assembles kind parts := by
  obtain ⟨meant, understands, whole⟩ := gathers
  constructor
  · intro text stands bytes spelled
    have read := Json.load_of_stands understands stands
    rw [Json.gathered_of_spells spelled, Option.map_eq_some_iff] at whole
    obtain ⟨message, rfl, encoded⟩ := whole
    refine ⟨message, ?_, encoded⟩
    cases loaded : Json.load wire.format text with
    | error failure =>
        rw [loaded] at read
        cases read
    | ok other =>
        rw [loaded] at read
        exact congrArg Except.ok (Option.some.inj read)
  · intro text stands size digits member wrong
    have read := Json.load_of_stands understands stands
    rw [Json.gathered_eq_none member wrong, Option.map_eq_none_iff] at whole
    cases loaded : Json.load wire.format text with
    | error failure => exact ⟨failure, rfl⟩
    | ok message =>
        rw [loaded, whole] at read
        cases read

end Wire

namespace KeyProof

theorem format_gathers (commitment response : List Char) :
    format.Gathers
      (IsObject [("commitment", IsText commitment), ("response", IsText response)])
      [(pointBytes, commitment), (scalarBytes, response)] fun proof => proof.encode.bytes := by
  apply Json.Format.transport_gathers
  · apply Json.Format.record_gathers _ ⟨by decide, by simp [Json.Fields.names, Json.Plain]⟩
    apply Json.Fields.gathers_field _ (Json.octets_gathers pointBytes commitment)
    exact Json.Fields.gathers_field _ (Json.octets_gathers scalarBytes response)
      Json.Fields.gathers_nil
  · rintro ⟨commitment, response, _⟩
    simp [encode, Octets.append]

theorem wire_exact : wire.Exact "proof" 65 :=
  @Wire.exact_of_receive _ wire .proof ofOctets (fun _ => rfl) encode_of_octets wire_lossless

theorem wire_assembles (commitment response : List Char) :
    wire.Assembles (IsObject [("commitment", IsText commitment), ("response", IsText response)])
      [(33, commitment), (32, response)] :=
  Wire.assembles_of_gathers (format_gathers commitment response)

end KeyProof

namespace SetupMessage

theorem wire_exact : wire.Exact "setup message" 98 :=
  @Wire.exact_of_receive _ wire .setupMessage ofOctets decode_eq encode_of_octets wire_lossless

theorem format_gathers (publicKey commitment response : List Char) :
    format.Gathers
      (IsObject [("public_key", IsText publicKey),
        ("proof", IsObject [("commitment", IsText commitment), ("response", IsText response)])])
      [(pointBytes, publicKey), (pointBytes, commitment), (scalarBytes, response)]
      fun message => message.encode.bytes := by
  apply Json.Format.transport_gathers
  · apply Json.Format.record_gathers _ ⟨by decide, by simp [Json.Fields.names, Json.Plain]⟩
    apply Json.Fields.gathers_field _ (Json.octets_gathers pointBytes publicKey)
    exact Json.Fields.gathers_field _ (KeyProof.format_gathers commitment response)
      Json.Fields.gathers_nil
  · rintro ⟨publicKey, proof, _⟩
    simp [encode, Octets.append]

theorem wire_assembles (publicKey commitment response : List Char) :
    wire.Assembles
      (IsObject [("public_key", IsText publicKey),
        ("proof", IsObject [("commitment", IsText commitment), ("response", IsText response)])])
      [(33, publicKey), (33, commitment), (32, response)] :=
  Wire.assembles_of_gathers (format_gathers publicKey commitment response)

end SetupMessage

namespace OpeningMessage

theorem wire_exact : wire.Exact "decommitment" 64 :=
  @Wire.exact_of_receive _ wire .decommitment ofOctets decode_eq encode_of_octets wire_lossless

theorem format_gathers (decommit0 decommit1 : List Char) :
    format.Gathers (IsObject [("decommit0", IsText decommit0), ("decommit1", IsText decommit1)])
      [(padBytes, decommit0), (padBytes, decommit1)] fun message => message.encode.bytes := by
  apply Json.Format.transport_gathers
  · apply Json.Format.record_gathers _ ⟨by decide, by simp [Json.Fields.names, Json.Plain]⟩
    apply Json.Fields.gathers_field _ (Json.octets_gathers padBytes decommit0)
    exact Json.Fields.gathers_field _ (Json.octets_gathers padBytes decommit1)
      Json.Fields.gathers_nil
  · rintro ⟨decommit0, decommit1, _⟩
    simp [encode, Octets.append]

theorem wire_assembles (decommit0 decommit1 : List Char) :
    wire.Assembles (IsObject [("decommit0", IsText decommit0), ("decommit1", IsText decommit1)])
      [(32, decommit0), (32, decommit1)] :=
  Wire.assembles_of_gathers (format_gathers decommit0 decommit1)

end OpeningMessage

theorem one_field_gathers {Message : Type} {size : Nat} {record field : String}
    {make : Octets size → Message} {take : Message → Octets size}
    (inverse : ∀ value, take (make value) = value)
    (named : (Json.Fields.field field (Json.octets size) .nil).WellNamed) (digits : List Char) :
    ((Json.Format.record record (.field field (Json.octets size) .nil)).transport
      (fun (value, _) => make value) (fun message => (take message, ()))).Gathers
      (IsObject [(field, IsText digits)]) [(size, digits)] fun message => (take message).bytes := by
  apply Json.Format.transport_gathers
  · apply Json.Format.record_gathers _ named
    exact Json.Fields.gathers_field _ (Json.octets_gathers size digits) Json.Fields.gathers_nil
  · rintro ⟨value, _⟩
    rw [inverse]
    exact (List.append_nil _).symm

namespace PointMessage

theorem wire_exact : wire.Exact "round 1 point" 33 :=
  @Wire.exact_of_receive _ wire .point PointMessage.mk (fun _ => rfl) (fun _ => rfl) wire_lossless

theorem wire_assembles (digits : List Char) :
    wire.Assembles (IsObject [("point", IsText digits)]) [(33, digits)] := by
  apply Wire.assembles_of_gathers
  apply one_field_gathers (fun _ => rfl)
  exact ⟨by decide, by simp [Json.Fields.names, Json.Plain]⟩

end PointMessage

namespace ChallengeMessage

theorem wire_exact : wire.Exact "challenge" 32 :=
  @Wire.exact_of_receive _ wire .challenge ChallengeMessage.mk (fun _ => rfl) (fun _ => rfl)
    wire_lossless

theorem wire_assembles (digits : List Char) :
    wire.Assembles (IsObject [("challenge", IsText digits)]) [(32, digits)] := by
  apply Wire.assembles_of_gathers
  apply one_field_gathers (fun _ => rfl)
  exact ⟨by decide, by simp [Json.Fields.names, Json.Plain]⟩

end ChallengeMessage

namespace ResponseMessage

theorem wire_exact : wire.Exact "response" 32 :=
  @Wire.exact_of_receive _ wire .response ResponseMessage.mk (fun _ => rfl) (fun _ => rfl)
    wire_lossless

theorem wire_assembles (digits : List Char) :
    wire.Assembles (IsObject [("response", IsText digits)]) [(32, digits)] := by
  apply Wire.assembles_of_gathers
  apply one_field_gathers (fun _ => rfl)
  exact ⟨by decide, by simp [Json.Fields.names, Json.Plain]⟩

end ResponseMessage

/-- All six messages are coded exactly, and each object of strings of digits is read as what these
spell. -/
theorem message_codecs_exact :
    (SetupMessage.wire.Exact "setup message" 98 ∧ KeyProof.wire.Exact "proof" 65 ∧
      PointMessage.wire.Exact "round 1 point" 33 ∧ ChallengeMessage.wire.Exact "challenge" 32 ∧
      ResponseMessage.wire.Exact "response" 32 ∧ OpeningMessage.wire.Exact "decommitment" 64) ∧
    (∀ publicKey commitment response, SetupMessage.wire.Assembles
      (IsObject [("public_key", IsText publicKey),
        ("proof", IsObject [("commitment", IsText commitment), ("response", IsText response)])])
      [(33, publicKey), (33, commitment), (32, response)]) ∧
    (∀ commitment response, KeyProof.wire.Assembles
      (IsObject [("commitment", IsText commitment), ("response", IsText response)])
      [(33, commitment), (32, response)]) ∧
    (∀ point, PointMessage.wire.Assembles (IsObject [("point", IsText point)]) [(33, point)]) ∧
    (∀ challenge, ChallengeMessage.wire.Assembles (IsObject [("challenge", IsText challenge)])
      [(32, challenge)]) ∧
    (∀ response, ResponseMessage.wire.Assembles (IsObject [("response", IsText response)])
      [(32, response)]) ∧
    (∀ decommit0 decommit1, OpeningMessage.wire.Assembles
      (IsObject [("decommit0", IsText decommit0), ("decommit1", IsText decommit1)])
      [(32, decommit0), (32, decommit1)]) :=
  ⟨⟨SetupMessage.wire_exact, KeyProof.wire_exact, PointMessage.wire_exact,
      ChallengeMessage.wire_exact, ResponseMessage.wire_exact, OpeningMessage.wire_exact⟩,
    SetupMessage.wire_assembles, KeyProof.wire_assembles, PointMessage.wire_assembles,
    ChallengeMessage.wire_assembles, ResponseMessage.wire_assembles, OpeningMessage.wire_assembles⟩

end ObliviousTransfer
