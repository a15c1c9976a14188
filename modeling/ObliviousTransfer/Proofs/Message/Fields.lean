import ObliviousTransfer.Proofs.Curve.Encoding
import ObliviousTransfer.Proofs.Json.Objects
import ObliviousTransfer.Proofs.Json.Truncation
import ObliviousTransfer.Proofs.Json.Values
import ObliviousTransfer.Protocol.Message

/-!
The fields of messages, setups and signatures as strings of digits: what is read
back from what was written, what a string of digits means, and what no string
does.
-/

namespace ObliviousTransfer

namespace Json

theorem hex_plain (bytes : List Byte) : ∀ character ∈ Hex.encode bytes, Plain character :=
  digits_plain (Hex.spells_encode bytes)

theorem hex_unbraced (bytes : List Byte) : '\x7d' ∉ quoted (Hex.encode bytes) := by
  have digits : ∀ value < 16, '\x7d' ≠ Hex.digit value := by decide
  have unbraced : '\x7d' ∉ Hex.encode bytes := by
    induction bytes with
    | nil => exact List.not_mem_nil
    | cons byte rest ih =>
        change '\x7d' ∉ Hex.digit _ :: Hex.digit _ :: Hex.encode rest
        simp only [List.mem_cons, not_or]
        exact ⟨digits _ (Hex.high_digit_lt byte), digits _ (Hex.low_digit_lt byte), ih⟩
  simp only [quoted, List.mem_cons, List.mem_append, not_or]
  exact ⟨by decide, unbraced, by decide, List.not_mem_nil⟩

theorem decode_hex_of_spells {Value : Type} (check : List Byte → Except FieldFault Value)
    {digits : List Char} {bytes : List Byte} (spells : Hex.Spells digits bytes) :
    decodeHex check digits = check bytes := by
  rw [decodeHex, Hex.decode_of_spells spells]

theorem decode_hex_encode {Value : Type} (check : List Byte → Except FieldFault Value)
    (bytes : List Byte) : decodeHex check (Hex.encode bytes) = check bytes :=
  decode_hex_of_spells check (Hex.spells_encode bytes)

theorem octets_restores {size : Nat} (value : Octets size) : (octets size).Restores value := by
  apply Format.text_restores
  · exact hex_plain value.bytes
  · rw [decode_hex_encode, checkOctets, Octets.of_list_bytes]

theorem scalar_restores (value : Scalar) : scalar.Restores value := by
  apply Format.text_restores
  · exact hex_plain (encodeScalar value).bytes
  · rw [decode_hex_encode, decode_scalar_encode]
    rfl

theorem point_restores {value : Point} (notIdentity : value ≠ .identity) :
    point.Restores value := by
  apply Format.text_restores
  · exact hex_plain (encodePoint value).bytes
  · rw [decode_hex_encode, decode_point_encode notIdentity]
    rfl

/-- The identity is written and not read. -/
theorem point_refused : point.ReadsBack .identity (.error (.field (.encoding .pointForm))) := by
  have fails : decodeHex (fun bytes => (decodePoint bytes).mapError FieldFault.encoding)
      (Hex.encode (encodePoint .identity).bytes) =
      (Except.error (.encoding .pointForm) : Except FieldFault Unit).map fun _ => .identity := by
    rw [decode_hex_encode, decode_point_identity]
    rfl
  exact @Format.text_reads_back _ _ (fun value => Hex.encode (encodePoint value).bytes) _ _ _
    (hex_plain (encodePoint .identity).bytes) fails

theorem point_reads_back (value : Point) : point.ReadsBack value
    (if value = .identity then .error (.field (.encoding .pointForm)) else .ok ()) := by
  by_cases identity : value = .identity
  · rw [if_pos identity, identity]
    exact point_refused
  · rw [if_neg identity]
    exact Format.restores_iff_reads_back.mp (point_restores identity)

theorem spells_of_decode_hex {Value : Type} {check : List Byte → Except FieldFault Value}
    {text : List Char} {value : Value} (decoded : decodeHex check text = .ok value) :
    ∃ bytes, Hex.Spells text bytes ∧ check bytes = .ok value := by
  unfold decodeHex at decoded
  split at decoded
  · next bytes read => exact ⟨bytes, Hex.decode_ok_iff.mp read, decoded⟩
  · cases decoded

theorem point_yields {value : Point} (yields : point.Yields value) : value ≠ .identity := by
  obtain ⟨text, decoded⟩ := Format.text_yields yields
  obtain ⟨bytes, _, read⟩ := spells_of_decode_hex decoded
  exact decode_point_ne_identity (except_map_error_ok_iff.mp read)

def spelled? (size : Nat) (digits : List Char) : Option (Octets size) :=
  (Hex.decode digits).toOption.bind (Octets.ofList? size)

theorem spelled_eq_some_iff {size : Nat} {digits : List Char} {value : Octets size} :
    spelled? size digits = some value ↔ Hex.Spells digits value.bytes := by
  rw [← Hex.decode_ok_iff, spelled?]
  cases decoded : Hex.decode digits with
  | error fault => exact ⟨fun same => (nomatch same), fun same => nomatch same⟩
  | ok bytes =>
      rw [Except.ok.injEq]
      exact Octets.of_list_eq_some_iff

theorem octets_understands (size : Nat) (digits : List Char) :
    (octets size).Understands (IsText digits) (spelled? size digits) := by
  have meant : (decodeHex (checkOctets size) digits).toOption = spelled? size digits := by
    rw [decodeHex, spelled?]
    cases Hex.decode digits with
    | error fault => rfl
    | ok bytes =>
        change (checkOctets size bytes).toOption = Octets.ofList? size bytes
        rw [checkOctets]
        cases Octets.ofList? size bytes <;> rfl
  rw [← meant]
  exact Format.text_understands digits

theorem encoded_understands {Value : Type} (encode : Value → List Char)
    (check : List Byte → Except EncodingFault Value) (bytes : List Byte) :
    (Format.text encode (decodeHex fun bytes => (check bytes).mapError .encoding)).Understands
      (IsHex bytes) (check bytes).toOption := by
  apply Format.hex_understands
  intro digits spells
  have meant : (decodeHex (fun bytes => (check bytes).mapError FieldFault.encoding)
      digits).toOption = (check bytes).toOption := by
    rw [decode_hex_of_spells _ spells]
    cases check bytes <;> rfl
  rw [← meant]
  exact Format.text_understands digits

theorem scalar_understands (bytes : List Byte) :
    scalar.Understands (IsHex bytes) (decodeScalar bytes).toOption :=
  encoded_understands _ decodeScalar bytes

theorem point_understands (bytes : List Byte) :
    point.Understands (IsHex bytes) (decodePoint bytes).toOption :=
  encoded_understands _ decodePoint bytes

theorem yields_of_load {Value : Type} {format : Format FieldFault Value} {text : String}
    {value : Value} (loaded : load format text = .ok value) : format.Yields value :=
  Format.yields_of_decode (except_map_error_ok_iff.mp loaded)

theorem load_of_stands {Value : Type} {format : Format FieldFault Value}
    {holds : List Char → Prop} {meant : Option Value} (understands : format.Understands holds meant)
    {text : String} (stands : Stands holds text) : (load format text).toOption = meant := by
  rw [← Format.decode_of_stands understands stands, load]
  cases format.decode text.toList <;> rfl

theorem load_ok_iff_of_stands {Value : Type} {format : Format FieldFault Value}
    {holds : List Char → Prop} {meant : Option Value} (understands : format.Understands holds meant)
    {text : String} (stands : Stands holds text) {value : Value} :
    load format text = .ok value ↔ meant = some value := by
  rw [← load_of_stands understands stands, except_to_option_iff]

theorem encoded_writes {Value : Type} {size : Nat} (encode : Value → Octets size)
    (decode : List Char → Except FieldFault Value) (value : Value) :
    (Format.text (fun value => Hex.encode (encode value).bytes) decode).Writes
      (IsHex (encode value).bytes) value :=
  fun _ _ => ⟨_, rfl, Hex.spells_encode _⟩

theorem stands_of_save {Value : Type} {format : Format FieldFault Value}
    {holds : List Char → Prop} {value : Value} (writes : format.Writes holds value)
    (layout : Layout) : Stands holds (save format layout value) := by
  refine ⟨⟨[], all_blank_nil⟩, ⟨[], all_blank_nil⟩, _, writes layout 0, ?_⟩
  rw [save, String.toList_ofList, List.append_nil]
  rfl

theorem load_save_eq {Value : Type} {format : Format FieldFault Value} {value : Value}
    {outcome : Except (Fault FieldFault) Unit} (readsBack : format.ReadsBack value outcome)
    (layout : Layout) : load format (save format layout value) =
      (outcome.mapError .unreadable).map fun _ => value := by
  rw [load, save, String.toList_ofList, Format.decode_encode readsBack]
  cases outcome <;> rfl

theorem load_save {Value : Type} {format : Format FieldFault Value} {value : Value}
    (restores : format.Restores value) (layout : Layout) :
    load format (save format layout value) = .ok value :=
  load_save_eq (Format.restores_iff_reads_back.mp restores) layout

/-- What is loaded from the front of a saved text is loaded from all of it. -/
theorem whole_of_load {Value : Type} {format : Format FieldFault Value} {value read : Value}
    (readsWhole : format.ReadsWhole value) {layout : Layout} {text : String}
    (front : text.toList <+: (save format layout value).toList)
    (loaded : load format text = .ok read) : text = save format layout value := by
  rw [save, String.toList_ofList] at front
  have whole := readsWhole layout text.toList read front (except_map_error_ok_iff.mp loaded)
  rw [save, ← whole, String.ofList_toList]

end Json

end ObliviousTransfer
