import ObliviousTransfer.Proofs.Message.Fields

/-!
Messages on their way to the other party. Each may go in its byte form or as a
JSON text in either layout, and arrives as it was sent, whatever it holds.
-/

namespace ObliviousTransfer

structure Wire (Message : Type) where
  size : Nat
  encode : Message → Octets size
  decode : List Byte → Except Failure Message
  format : Json.Format FieldFault Message

inductive Carriage where
  | bytes
  | text (layout : Json.Layout)

namespace Wire

variable {Message : Type}

def carry (wire : Wire Message) (carriage : Carriage) (message : Message) :
    Except Failure Message :=
  match carriage with
  | .bytes => wire.decode (wire.encode message).bytes
  | .text layout => Json.load wire.format (Json.save wire.format layout message)

structure Lossless (wire : Wire Message) : Prop where
  decode_encode : ∀ message, wire.decode (wire.encode message).bytes = .ok message
  restores : ∀ message, wire.format.Restores message

theorem carry_eq {wire : Wire Message} (lossless : wire.Lossless) (carriage : Carriage)
    (message : Message) : wire.carry carriage message = .ok message := by
  cases carriage with
  | bytes => exact lossless.decode_encode message
  | text layout => exact Json.load_save (lossless.restores message) layout

end Wire

theorem receive_bytes (part : WirePart) {size : Nat} (bytes : Octets size) :
    receive part size bytes.bytes = .ok bytes := by
  rw [receive, Octets.of_list_bytes]

theorem receive_refused (part : WirePart) {size : Nat} {bytes : List Byte}
    (wrong : bytes.length ≠ size) :
    receive part size bytes = .error (.wireLength part size bytes.length) := by
  rw [receive, Octets.of_list_eq_none_iff.mpr wrong]

/-- A reader that first checks the length of the whole can only fail there, if the right length is
enough for it. -/
theorem decode_of_receive {Message : Type} {part : WirePart} {size : Nat}
    {read : Octets size → Except Failure Message} {make : Octets size → Message}
    (reads : ∀ whole, read whole = .ok (make whole)) (bytes : List Byte) :
    (receive part size bytes >>= read) = (receive part size bytes).map make := by
  cases receive part size bytes with
  | error failure => rfl
  | ok whole => exact reads whole

namespace KeyProof

theorem format_restores (proof : KeyProof) : format.Restores proof := by
  apply Json.Format.transport_restores
  · apply Json.Format.record_restores ⟨by decide, by simp [Json.Fields.names, Json.Plain]⟩
    exact ⟨Json.octets_restores proof.commitment, Json.octets_restores proof.response, trivial⟩
  · rfl

theorem of_octets_encode (proof : KeyProof) : ofOctets proof.encode = proof := by
  rw [ofOctets, encode]
  ext1
  · exact Octets.leading_append _ _
  · exact Octets.trailing_append _ _

theorem encode_of_octets (bytes : Octets size) : (ofOctets bytes).encode = bytes :=
  @Octets.append_leading_trailing pointBytes scalarBytes bytes

theorem decode_octets (bytes : Octets size) : decode bytes.bytes = .ok (ofOctets bytes) := by
  rw [decode, receive_bytes]
  rfl

def wire : Wire KeyProof := ⟨size, encode, decode, format⟩

theorem wire_lossless : wire.Lossless where
  decode_encode proof := by
    change decode proof.encode.bytes = _
    rw [decode_octets]
    exact congrArg Except.ok (of_octets_encode proof)
  restores := format_restores

end KeyProof

namespace SetupMessage

theorem format_restores (message : SetupMessage) : format.Restores message := by
  apply Json.Format.transport_restores
  · apply Json.Format.record_restores ⟨by decide, by simp [Json.Fields.names, Json.Plain]⟩
    exact ⟨Json.octets_restores message.publicKey, message.proof.format_restores, trivial⟩
  · rfl

def ofOctets (bytes : Octets size) : SetupMessage :=
  have bytes : Octets (pointBytes + KeyProof.size) := bytes
  ⟨bytes.leading, KeyProof.ofOctets bytes.trailing⟩

/-- The checks of the parts never fail, since the parts of the whole have their lengths. -/
theorem decode_eq (bytes : List Byte) :
    decode bytes = (receive .setupMessage size bytes).map ofOctets := by
  apply decode_of_receive
  intro whole
  have key : receive .publicKey pointBytes (whole.bytes.take pointBytes) =
      .ok (ofOctets whole).publicKey := receive_bytes _ (ofOctets whole).publicKey
  have proof : KeyProof.decode (whole.bytes.drop pointBytes) = .ok (ofOctets whole).proof :=
    KeyProof.decode_octets (@Octets.trailing pointBytes KeyProof.size whole)
  rw [key, proof]
  rfl

theorem of_octets_encode (message : SetupMessage) : ofOctets message.encode = message := by
  rw [ofOctets, encode]
  ext1
  · exact Octets.leading_append _ _
  · change KeyProof.ofOctets (Octets.trailing (Octets.append _ _)) = _
    rw [Octets.trailing_append, KeyProof.of_octets_encode]

theorem encode_of_octets (bytes : Octets size) : (ofOctets bytes).encode = bytes := by
  rw [encode, ofOctets, KeyProof.encode_of_octets]
  exact @Octets.append_leading_trailing pointBytes KeyProof.size bytes

def wire : Wire SetupMessage := ⟨size, encode, decode, format⟩

theorem wire_lossless : wire.Lossless where
  decode_encode message := by
    change decode message.encode.bytes = _
    rw [decode_eq, receive_bytes]
    exact congrArg Except.ok (of_octets_encode message)
  restores := format_restores

end SetupMessage

theorem one_field_restores {Message : Type} {size : Nat} {record field : String}
    {make : Octets size → Message} {take : Message → Octets size}
    (inverse : ∀ message, make (take message) = message)
    (named : (Json.Fields.field field (Json.octets size) .nil).WellNamed) (message : Message) :
    ((Json.Format.record record (.field field (Json.octets size) .nil)).transport
      (fun (value, _) => make value) (fun message => (take message, ()))).Restores message := by
  apply Json.Format.transport_restores
  · exact Json.Format.record_restores named ⟨Json.octets_restores (take message), trivial⟩
  · exact inverse message

namespace PointMessage

def wire : Wire PointMessage := ⟨pointBytes, encode, decode, format⟩

theorem wire_lossless : wire.Lossless where
  decode_encode message := by
    change (receive .point pointBytes message.point.bytes).map PointMessage.mk = _
    rw [receive_bytes]
    rfl
  restores message := by
    apply one_field_restores (fun _ => rfl)
    exact ⟨by decide, by simp [Json.Fields.names, Json.Plain]⟩

end PointMessage

namespace ChallengeMessage

def wire : Wire ChallengeMessage := ⟨padBytes, encode, decode, format⟩

theorem wire_lossless : wire.Lossless where
  decode_encode message := by
    change (receive .challenge padBytes message.challenge.bytes).map ChallengeMessage.mk = _
    rw [receive_bytes]
    rfl
  restores message := by
    apply one_field_restores (fun _ => rfl)
    exact ⟨by decide, by simp [Json.Fields.names, Json.Plain]⟩

end ChallengeMessage

namespace ResponseMessage

def wire : Wire ResponseMessage := ⟨padBytes, encode, decode, format⟩

theorem wire_lossless : wire.Lossless where
  decode_encode message := by
    change (receive .response padBytes message.response.bytes).map ResponseMessage.mk = _
    rw [receive_bytes]
    rfl
  restores message := by
    apply one_field_restores (fun _ => rfl)
    exact ⟨by decide, by simp [Json.Fields.names, Json.Plain]⟩

end ResponseMessage

namespace OpeningMessage

theorem format_restores (message : OpeningMessage) : format.Restores message := by
  apply Json.Format.transport_restores
  · apply Json.Format.record_restores ⟨by decide, by simp [Json.Fields.names, Json.Plain]⟩
    exact ⟨Json.octets_restores message.decommit0, Json.octets_restores message.decommit1,
      trivial⟩
  · rfl

def ofOctets (bytes : Octets size) : OpeningMessage :=
  have bytes : Octets (padBytes + padBytes) := bytes
  ⟨bytes.leading, bytes.trailing⟩

theorem decode_eq (bytes : List Byte) :
    decode bytes = (receive .decommitment size bytes).map ofOctets := by
  apply decode_of_receive
  intro whole
  have first : receive .decommitment padBytes (whole.bytes.take padBytes) =
      .ok (ofOctets whole).decommit0 := receive_bytes _ (ofOctets whole).decommit0
  have second : receive .decommitment padBytes (whole.bytes.drop padBytes) =
      .ok (ofOctets whole).decommit1 := receive_bytes _ (ofOctets whole).decommit1
  rw [first, second]
  rfl

theorem of_octets_encode (message : OpeningMessage) : ofOctets message.encode = message := by
  rw [ofOctets, encode]
  ext1
  · exact Octets.leading_append _ _
  · exact Octets.trailing_append _ _

theorem encode_of_octets (bytes : Octets size) : (ofOctets bytes).encode = bytes :=
  @Octets.append_leading_trailing padBytes padBytes bytes

def wire : Wire OpeningMessage := ⟨size, encode, decode, format⟩

theorem wire_lossless : wire.Lossless where
  decode_encode message := by
    change decode message.encode.bytes = _
    rw [decode_eq, receive_bytes]
    exact congrArg Except.ok (of_octets_encode message)
  restores := format_restores

end OpeningMessage

end ObliviousTransfer
