import ObliviousTransfer.Ecdsa.Signature
import ObliviousTransfer.Proofs.Curve.Spelling
import ObliviousTransfer.Proofs.Message.Fields

/-!
Signatures as bytes and as objects of two strings of digits. Both readers take
the point and the scalar in the same spellings, except that a string may also
spell the point in full, and both refuse the identity. Of the bytes of one
signature only the tag of the point may differ.
-/

namespace ObliviousTransfer.Signature

open Json (IsHex IsObject IsText Stands)

theorem decode_ok_iff {bytes : List Byte} {signature : Signature} :
    decode bytes = .ok signature ↔ bytes.length = signatureBytes ∧
      decodePoint (bytes.take pointBytes) = .ok signature.r ∧
      decodeScalar (bytes.drop pointBytes) = .ok signature.s := by
  by_cases length : bytes.length = signatureBytes
  · rw [decode, if_pos length]
    constructor
    · intro decoded
      obtain ⟨r, point, decoded⟩ := except_bind_ok_iff.mp decoded
      obtain ⟨s, scalar, same⟩ := except_bind_ok_iff.mp decoded
      cases same
      exact ⟨length, except_map_error_ok_iff.mp point, except_map_error_ok_iff.mp scalar⟩
    · rintro ⟨_, point, scalar⟩
      rw [point, scalar]
      rfl
  · rw [decode, if_neg length]
    exact iff_of_false (fun same => nomatch same) fun parts => length parts.1

theorem decode_accepts_iff {bytes : List Byte} :
    (∃ signature, decode bytes = .ok signature) ↔ bytes.length = signatureBytes ∧
      (∃ r, decodePoint (bytes.take pointBytes) = .ok r) ∧
      ∃ s, decodeScalar (bytes.drop pointBytes) = .ok s := by
  constructor
  · rintro ⟨signature, decoded⟩
    obtain ⟨length, point, scalar⟩ := decode_ok_iff.mp decoded
    exact ⟨length, ⟨_, point⟩, _, scalar⟩
  · rintro ⟨length, ⟨r, point⟩, s, scalar⟩
    exact ⟨⟨r, s⟩, decode_ok_iff.mpr ⟨length, point, scalar⟩⟩

theorem kind_of_decode_error {bytes : List Byte} {failure : Failure}
    (refused : decode bytes = .error failure) : failure.kind = .invalidSignature := by
  unfold decode at refused
  split at refused
  · cases point : decodePoint (bytes.take pointBytes) with
    | error fault =>
        rw [point] at refused
        cases refused
        rfl
    | ok r =>
        cases scalar : decodeScalar (bytes.drop pointBytes) with
        | error fault =>
            rw [point, scalar] at refused
            cases refused
            rfl
        | ok s =>
            rw [point, scalar] at refused
            cases refused
  · cases refused
    rfl

theorem take_encode (signature : Signature) :
    signature.encode.bytes.take pointBytes = (encodePoint signature.r).bytes :=
  List.take_left' (encodePoint signature.r).length_eq

theorem drop_encode (signature : Signature) :
    signature.encode.bytes.drop pointBytes = (encodeScalar signature.s).bytes :=
  List.drop_left' (encodePoint signature.r).length_eq

theorem decode_encode (signature : Signature) : decode signature.encode.bytes =
    if signature.r = .identity then .error (.signatureEncoding .pointForm) else .ok signature := by
  by_cases identity : signature.r = .identity
  · rw [if_pos identity, decode, if_pos signature.encode.length_eq, take_encode, identity,
      decode_point_identity]
    rfl
  · rw [if_neg identity, decode_ok_iff, take_encode, drop_encode]
    exact ⟨signature.encode.length_eq, decode_point_encode identity,
      decode_scalar_encode signature.s⟩

theorem format_reads_back (signature : Signature) : format.ReadsBack signature
    (if signature.r = .identity then .error (.field (.encoding .pointForm)) else .ok ()) := by
  apply Json.Format.transport_reads_back
  · apply Json.Format.record_reads_back ⟨by decide, by simp [Json.Fields.names, Json.Plain]⟩
    refine ⟨_, .ok (), Json.point_reads_back signature.r,
      ⟨.ok (), .ok (), Json.scalar_restores signature.s, rfl, rfl⟩, ?_⟩
    by_cases identity : signature.r = .identity <;> simp [identity, Except.bind]
  · rfl

theorem load_save_eq (signature : Signature) (layout : Json.Layout) :
    Json.load format (Json.save format layout signature) =
      if signature.r = .identity then .error (.unreadable (.field (.encoding .pointForm)))
      else .ok signature := by
  rw [Json.load_save_eq signature.format_reads_back]
  split_ifs <;> rfl

theorem format_writes (signature : Signature) : format.Writes
    (IsObject [("r", IsHex (encodePoint signature.r).bytes),
      ("s", IsHex (encodeScalar signature.s).bytes)]) signature := by
  apply Json.Format.transport_writes
  refine Json.Format.record_writes ?_ (List.cons_ne_nil _ _)
  have point : Json.point.Writes (IsHex (encodePoint signature.r).bytes) signature.r :=
    Json.encoded_writes encodePoint _ signature.r
  have scalar : Json.scalar.Writes (IsHex (encodeScalar signature.s).bytes) signature.s :=
    Json.encoded_writes encodeScalar _ signature.s
  exact ⟨_, _, rfl, point, _, _, rfl, scalar, rfl⟩

theorem load_ne_identity {text : String} {signature : Signature}
    (loaded : Json.load format text = .ok signature) : signature.r ≠ .identity := by
  obtain ⟨⟨r, s, _⟩, fields, rfl⟩ := Json.Format.transport_yields (Json.yields_of_load loaded)
  exact Json.point_yields (Json.Format.record_yields fields).1

/-- An object of two members is read as the point and the scalar that these stand for. -/
theorem load_ok_iff {pointKind scalarKind : List Char → Prop} {point? : Option Point}
    {scalar? : Option Scalar} (points : Json.point.Understands pointKind point?)
    (scalars : Json.scalar.Understands scalarKind scalar?) {text : String}
    (stands : Stands (IsObject [("r", pointKind), ("s", scalarKind)]) text)
    {signature : Signature} :
    Json.load format text = .ok signature ↔
      point? = some signature.r ∧ scalar? = some signature.s := by
  have slots : (Json.Fields.field "r" Json.point (.field "s" Json.scalar .nil)).Understands
      [("r", pointKind), ("s", scalarKind)] (point?, scalar?, ()) :=
    ⟨_, _, rfl, points, _, _, rfl, scalars, rfl⟩
  have named : (Json.Fields.field "r" Json.point (.field "s" Json.scalar .nil)).WellNamed :=
    ⟨by decide, by simp [Json.Fields.names, Json.Plain]⟩
  have understands : format.Understands (IsObject [("r", pointKind), ("s", scalarKind)]) _ :=
    Json.Format.transport_understands (Json.Format.record_understands named slots) _ _
  rw [Json.load_ok_iff_of_stands understands stands]
  cases point? with
  | none => simp [Json.Fields.complete, Except.toOption]
  | some r =>
      cases scalar? with
      | none => simp [Json.Fields.complete, Except.toOption, bind, Except.bind]
      | some s =>
          change some (Signature.mk r s) = some signature ↔ _
          simp only [Option.some.injEq, Signature.ext_iff]

theorem load_hex_iff {r s : List Byte} {text : String}
    (stands : Stands (IsObject [("r", IsHex r), ("s", IsHex s)]) text) {signature : Signature} :
    Json.load format text = .ok signature ↔
      decodePoint r = .ok signature.r ∧ decodeScalar s = .ok signature.s := by
  rw [load_ok_iff (Json.point_understands r) (Json.scalar_understands s) stands,
    except_to_option_iff, except_to_option_iff]

theorem hex_of_load {rText sText : List Char} {text : String}
    (stands : Stands (IsObject [("r", IsText rText), ("s", IsText sText)]) text)
    {signature : Signature} (loaded : Json.load format text = .ok signature) :
    ∃ r s, Hex.Spells rText r ∧ Hex.Spells sText s := by
  have read := (load_ok_iff (Json.Format.text_understands rText)
    (Json.Format.text_understands sText) stands).mp loaded
  obtain ⟨r, point, _⟩ := Json.spells_of_decode_hex (except_to_option_iff.mp read.1)
  obtain ⟨s, scalar, _⟩ := Json.spells_of_decode_hex (except_to_option_iff.mp read.2)
  exact ⟨r, s, point, scalar⟩

theorem decode_append_iff {r s : List Byte} (length : r.length = pointBytes)
    {signature : Signature} : decode (r ++ s) = .ok signature ↔
      decodePoint r = .ok signature.r ∧ decodeScalar s = .ok signature.s := by
  rw [decode_ok_iff, List.take_left' length, List.drop_left' length]
  constructor
  · exact fun parts => parts.2
  · intro parts
    have rest : s.length = scalarBytes := (decode_scalar_accepts_iff.mp ⟨_, parts.2⟩).1
    exact ⟨by rw [List.length_append, length, rest, signatureBytes], parts⟩

/-- A point whose spelling has another length than a written one is spelled in full. -/
theorem decode_point_full_iff {bytes : List Byte} (length : bytes.length ≠ pointBytes)
    {point : Point} : decodePoint bytes = .ok point ↔
      ∃ body x y, ∃ onCurve : OnCurve x y,
        bytes = 4 :: body ∧ IsCoordinatePair body x y ∧ point = .affine x y onCurve := by
  constructor
  · intro decoded
    cases decode_point_ok_iff.mp decoded with
    | parity odd onCurve abscissa sameParity =>
        exact absurd (congrArg (· + 1) abscissa.length) length
    | even onCurve abscissa even => exact absurd (congrArg (· + 1) abscissa.length) length
    | full onCurve pair => exact ⟨_, _, _, onCurve, rfl, pair, rfl⟩
  · rintro ⟨body, x, y, onCurve, rfl, pair, rfl⟩
    exact decode_point_ok_iff.mpr (.full onCurve pair)

theorem load_full_iff {r s : List Byte} {text : String}
    (other : ¬(r.length = pointBytes ∧ s.length = scalarBytes))
    (stands : Stands (IsObject [("r", IsHex r), ("s", IsHex s)]) text) {signature : Signature} :
    Json.load format text = .ok signature ↔
      (∃ body x y, ∃ onCurve : OnCurve x y, r = 4 :: body ∧ IsCoordinatePair body x y ∧
        signature.r = .affine x y onCurve) ∧ s = (encodeScalar signature.s).bytes := by
  rw [load_hex_iff stands, ← decode_scalar_ok_iff]
  apply and_congr_left
  intro scalar
  have length : s.length = scalarBytes := (decode_scalar_accepts_iff.mp ⟨_, scalar⟩).1
  exact decode_point_full_iff fun same => other ⟨same, length⟩

theorem decode_compact (body : List Byte) : decode (5 :: body) = decode (2 :: body) := rfl

theorem short_spelling {bytes : List Byte} (short : bytes.length = pointBytes) {point : Point}
    (decoded : decodePoint bytes = .ok point) : bytes = (encodePoint point).bytes ∨
      ∃ body, (encodePoint point).bytes = 2 :: body ∧ bytes = 5 :: body := by
  cases decode_point_ok_iff.mp decoded with
  | parity odd onCurve abscissa sameParity =>
      have compressed := decode_compressed_of_spells onCurve abscissa sameParity
      exact Or.inl (encode_of_decode_compressed compressed).symm
  | even onCurve abscissa even =>
      exact Or.inr ⟨_, encode_of_decode_point_compact decoded, rfl⟩
  | full onCurve pair =>
      rw [List.length_cons, pair.length] at short
      exact absurd short (by decide)

/-- The bytes of a signature are those that are written for it, or these with another tag. -/
theorem spelling_of_decode {bytes : List Byte} {signature : Signature}
    (decoded : decode bytes = .ok signature) : bytes = signature.encode.bytes ∨
      ∃ body, signature.encode.bytes = 2 :: body ∧ bytes = 5 :: body := by
  obtain ⟨length, point, scalar⟩ := decode_ok_iff.mp decoded
  have split : bytes = bytes.take pointBytes ++ (encodeScalar signature.s).bytes := by
    rw [← decode_scalar_ok_iff.mp scalar, List.take_append_drop]
  have short : (bytes.take pointBytes).length = pointBytes := by
    rw [List.length_take, length]
    rfl
  rw [split]
  rcases short_spelling short point with written | ⟨body, written, compact⟩
  · rw [written]
    exact Or.inl rfl
  · right
    refine ⟨body ++ (encodeScalar signature.s).bytes, ?_, ?_⟩
    · change (encodePoint signature.r).bytes ++ (encodeScalar signature.s).bytes = _
      rw [written, List.cons_append]
    · rw [compact, List.cons_append]

theorem same_signature_iff {bytes other : List Byte} (different : other ≠ bytes)
    {signature : Signature} (decoded : decode bytes = .ok signature) :
    decode other = .ok signature ↔
      ∃ body, bytes = 2 :: body ∧ other = 5 :: body ∨ bytes = 5 :: body ∧ other = 2 :: body := by
  constructor
  · intro again
    rcases spelling_of_decode decoded with written | ⟨body, written, compact⟩
    · rcases spelling_of_decode again with same | ⟨body, other, compact⟩
      · exact absurd (same.trans written.symm) different
      · exact ⟨body, Or.inl ⟨written.trans other, compact⟩⟩
    · rcases spelling_of_decode again with same | ⟨rest, other, otherCompact⟩
      · exact ⟨body, Or.inr ⟨compact, same.trans written⟩⟩
      · have bodies : rest = body := (List.cons.inj (other.symm.trans written)).2
        rw [otherCompact, compact, bodies] at different
        exact absurd rfl different
  · rintro ⟨body, ⟨rfl, rfl⟩ | ⟨rfl, rfl⟩⟩
    · rw [decode_compact, decoded]
    · rw [← decode_compact, decoded]

structure CodecLaw (bytes : List Byte) (signature : Signature) : Prop where
  decode_iff : decode bytes = .ok signature ↔ bytes.length = 65 ∧
    decodePoint (bytes.take 33) = .ok signature.r ∧
    decodeScalar (bytes.drop 33) = .ok signature.s
  accepted : (∃ read, decode bytes = .ok read) ↔ bytes.length = 65 ∧
    (∃ r, decodePoint (bytes.take 33) = .ok r) ∧ ∃ s, decodeScalar (bytes.drop 33) = .ok s
  refused : ∀ failure, decode bytes = .error failure → failure.kind = .invalidSignature
  restored : decode signature.encode.bytes =
    if signature.r = .identity then .error (.signatureEncoding .pointForm) else .ok signature
  saved : ∀ layout, Stands (IsObject [("r", IsHex (encodePoint signature.r).bytes),
    ("s", IsHex (encodeScalar signature.s).bytes)]) (Json.save format layout signature)
  loaded : ∀ layout, Json.load format (Json.save format layout signature) =
    if signature.r = .identity then .error (.unreadable (.field (.encoding .pointForm)))
    else .ok signature
  not_identity : decode bytes = .ok signature → signature.r ≠ .identity
  loaded_not_identity : ∀ text, Json.load format text = .ok signature → signature.r ≠ .identity
  load_iff_decode : ∀ r s text, r.length = 33 → s.length = 32 →
    Stands (IsObject [("r", IsHex r), ("s", IsHex s)]) text →
    (Json.load format text = .ok signature ↔ decode (r ++ s) = .ok signature)
  load_full_iff : ∀ r s text, ¬(r.length = 33 ∧ s.length = 32) →
    Stands (IsObject [("r", IsHex r), ("s", IsHex s)]) text →
    (Json.load format text = .ok signature ↔
      (∃ body x y, ∃ onCurve : OnCurve x y, r = 4 :: body ∧ IsCoordinatePair body x y ∧
        signature.r = .affine x y onCurve) ∧ s = (encodeScalar signature.s).bytes)
  load_only_hex : ∀ rText sText text,
    Stands (IsObject [("r", IsText rText), ("s", IsText sText)]) text →
    Json.load format text = .ok signature → ∃ r s, Hex.Spells rText r ∧ Hex.Spells sText s
  same_iff : ∀ other, other ≠ bytes → decode bytes = .ok signature →
    (decode other = .ok signature ↔
      ∃ body, bytes = 2 :: body ∧ other = 5 :: body ∨ bytes = 5 :: body ∧ other = 2 :: body)

/-- Both forms of a signature are exact and agree, and one tag is all the bytes leave open. -/
theorem signature_codecs_agree (bytes : List Byte) (signature : Signature) :
    CodecLaw bytes signature := by
  constructor
  case decode_iff => exact decode_ok_iff
  case accepted => exact decode_accepts_iff
  case refused => exact fun failure => kind_of_decode_error
  case restored => exact signature.decode_encode
  case saved => exact Json.stands_of_save signature.format_writes
  case loaded => exact signature.load_save_eq
  case not_identity =>
    exact fun decoded => decode_point_ne_identity (decode_ok_iff.mp decoded).2.1
  case loaded_not_identity => exact fun text => load_ne_identity
  case load_iff_decode =>
    intro r s text length _ stands
    rw [load_hex_iff stands, decode_append_iff length]
  case load_full_iff => exact fun r s text other stands => load_full_iff other stands
  case load_only_hex => exact fun rText sText text stands => hex_of_load stands
  case same_iff => exact fun other different decoded => same_signature_iff different decoded

end ObliviousTransfer.Signature
