import ObliviousTransfer.Proofs.Curve.Encoding

/-!
Which byte strings stand for a point, and for which. The bytes are described by
their numbers alone, and reading accepts just these. A point is written in one
of its spellings, so what was written tells the point, and reading it back
changes a spelling only if its tag is not that of a parity.
-/

namespace ObliviousTransfer

/-- The bytes are a coordinate below the prime with which some point of the curve begins. -/
structure IsAbscissa (body : List Byte) (x : Coordinate) : Prop where
  length : body.length = 32
  value : bigEndianValue body = x.val
  square : IsSquare (x * x * x + 7)

structure IsCoordinatePair (body : List Byte) (x y : Coordinate) : Prop where
  length : body.length = 64
  first : bigEndianValue (body.take 32) = x.val
  second : bigEndianValue (body.drop 32) = y.val
  equation : y * y = x * x * x + 7

/-- The forms of a point. Without a tag for its parity, `y` is even. -/
inductive Spells : List Byte → Point → Prop
  | parity {body : List Byte} {x y : Coordinate} (odd : Bool) (onCurve : OnCurve x y)
      (abscissa : IsAbscissa body x) (sameParity : (Point.affine x y onCurve).oddY = odd) :
      Spells (parityTag odd :: body) (.affine x y onCurve)
  | even {body : List Byte} {x y : Coordinate} (onCurve : OnCurve x y)
      (abscissa : IsAbscissa body x) (even : (Point.affine x y onCurve).oddY = false) :
      Spells (5 :: body) (.affine x y onCurve)
  | full {body : List Byte} {x y : Coordinate} (onCurve : OnCurve x y)
      (pair : IsCoordinatePair body x y) : Spells (4 :: body) (.affine x y onCurve)

theorem eq_encode_coordinate_iff {body : List Byte} {x : Coordinate} (length : body.length = 32) :
    body = (encodeCoordinate x).bytes ↔ bigEndianValue body = x.val := by
  constructor
  · intro same
    rw [same, encode_coordinate_value]
  · intro value
    change body = bigEndian 32 x.val
    rw [← value, ← length, big_endian_of_value]

theorem is_abscissa_iff {body : List Byte} {x y : Coordinate} (onCurve : OnCurve x y) :
    IsAbscissa body x ↔ body = (encodeCoordinate x).bytes := by
  constructor
  · intro abscissa
    exact (eq_encode_coordinate_iff abscissa.length).mpr abscissa.value
  · intro same
    have length : body.length = 32 := same ▸ (encodeCoordinate x).length_eq
    exact ⟨length, (eq_encode_coordinate_iff length).mp same, y, onCurve.symm⟩

theorem is_coordinate_pair_iff {body : List Byte} {x y : Coordinate} (onCurve : OnCurve x y) :
    IsCoordinatePair body x y ↔
      body = (encodeCoordinate x).bytes ++ (encodeCoordinate y).bytes := by
  constructor
  · rintro ⟨length, first, second, _⟩
    have front : body.take 32 = (encodeCoordinate x).bytes :=
      (eq_encode_coordinate_iff (by rw [List.length_take, length]; rfl)).mpr first
    have back : body.drop 32 = (encodeCoordinate y).bytes :=
      (eq_encode_coordinate_iff (by rw [List.length_drop, length])).mpr second
    rw [← front, ← back, List.take_append_drop]
  · rintro rfl
    refine ⟨?_, ?_, ?_, onCurve⟩
    · rw [List.length_append, (encodeCoordinate x).length_eq, (encodeCoordinate y).length_eq]
    · rw [List.take_left' (encodeCoordinate x).length_eq, encode_coordinate_value]
    · rw [List.drop_left' (encodeCoordinate x).length_eq, encode_coordinate_value]

theorem decode_point_parity (odd : Bool) (body : List Byte) :
    decodePoint (parityTag odd :: body) = decodeCompressed odd body := by
  cases odd <;> rfl

theorem decode_compressed_spells {odd : Bool} {body : List Byte} {point : Point}
    (decoded : decodeCompressed odd body = .ok point) :
    ∃ (x y : Coordinate) (onCurve : OnCurve x y),
      IsAbscissa body x ∧ point = .affine x y onCurve ∧ point.oddY = odd := by
  obtain ⟨x, y, onCurve, same, parity, rfl⟩ := decode_compressed_ok_iff.mp decoded
  exact ⟨x, y, onCurve, (is_abscissa_iff onCurve).mpr same, rfl, parity⟩

theorem decode_compressed_of_spells {odd : Bool} {body : List Byte} {x y : Coordinate}
    (onCurve : OnCurve x y) (abscissa : IsAbscissa body x)
    (parity : (Point.affine x y onCurve).oddY = odd) :
    decodeCompressed odd body = .ok (.affine x y onCurve) :=
  decode_compressed_ok_iff.mpr ⟨x, y, onCurve, (is_abscissa_iff onCurve).mp abscissa, parity, rfl⟩

theorem decode_point_ok_iff {bytes : List Byte} {point : Point} :
    decodePoint bytes = .ok point ↔ Spells bytes point := by
  constructor
  · intro decoded
    cases bytes with
    | nil => cases decoded
    | cons tag body =>
        simp only [decodePoint] at decoded
        split_ifs at decoded with _ _ two three four five
        · obtain ⟨x, y, onCurve, abscissa, rfl, even⟩ := decode_compressed_spells decoded
          exact two ▸ .parity false onCurve abscissa even
        · obtain ⟨x, y, onCurve, abscissa, rfl, odd⟩ := decode_compressed_spells decoded
          exact three ▸ .parity true onCurve abscissa odd
        · obtain ⟨x, y, onCurve, same, rfl⟩ := decode_uncompressed_ok_iff.mp decoded
          exact four ▸ .full onCurve ((is_coordinate_pair_iff onCurve).mpr same)
        · obtain ⟨x, y, onCurve, abscissa, rfl, even⟩ := decode_compressed_spells decoded
          exact five ▸ .even onCurve abscissa even
  · intro spells
    cases spells with
    | parity odd onCurve abscissa sameParity =>
        rw [decode_point_parity]
        exact decode_compressed_of_spells onCurve abscissa sameParity
    | even onCurve abscissa even => exact decode_compressed_of_spells onCurve abscissa even
    | full onCurve pair =>
        exact decode_uncompressed_ok_iff.mpr
          ⟨_, _, onCurve, (is_coordinate_pair_iff onCurve).mp pair, rfl⟩

theorem exists_parity {x : Coordinate} (square : IsSquare (x * x * x + 7)) (odd : Bool) :
    ∃ (y : Coordinate) (onCurve : OnCurve x y), (Point.affine x y onCurve).oddY = odd := by
  obtain ⟨y, root⟩ := square
  have onCurve : OnCurve x y := root.symm
  by_cases same : (Point.affine x y onCurve).oddY = odd
  · exact ⟨y, onCurve, same⟩
  · have flips : (-Point.affine x y onCurve).oddY = !(Point.affine x y onCurve).oddY :=
      Point.odd_y_negate Point.noConfusion
    exact ⟨-y, Point.on_curve_negate onCurve, flips.trans (Bool.not_eq.mpr same)⟩

/-- Whether bytes are read at all is a matter of their length, their tag and their numbers. -/
theorem decode_point_accepts_iff {bytes : List Byte} :
    (∃ point, decodePoint bytes = .ok point) ↔
      (∃ tag ∈ ([2, 3, 5] : List Byte), ∃ body x, bytes = tag :: body ∧ IsAbscissa body x) ∨
        ∃ body x y, bytes = 4 :: body ∧ IsCoordinatePair body x y := by
  constructor
  · rintro ⟨point, decoded⟩
    cases decode_point_ok_iff.mp decoded with
    | parity odd _ abscissa _ =>
        exact Or.inl ⟨parityTag odd, by cases odd <;> decide, _, _, rfl, abscissa⟩
    | even _ abscissa _ => exact Or.inl ⟨5, by decide, _, _, rfl, abscissa⟩
    | full _ pair => exact Or.inr ⟨_, _, _, rfl, pair⟩
  · rintro (⟨tag, known, body, x, rfl, abscissa⟩ | ⟨body, x, y, rfl, pair⟩)
    · have accepted (odd : Bool) : ∃ point, decodeCompressed odd body = .ok point := by
        obtain ⟨y, onCurve, parity⟩ := exists_parity abscissa.square odd
        exact ⟨_, decode_compressed_of_spells onCurve abscissa parity⟩
      simp only [List.mem_cons, List.not_mem_nil, or_false] at known
      rcases known with rfl | rfl | rfl
      · exact accepted false
      · exact accepted true
      · exact accepted false
    · exact ⟨_, decode_point_ok_iff.mpr (.full pair.equation pair)⟩

theorem encode_point_injective : Function.Injective encodePoint := by
  intro left right same
  have decoded := congrArg (fun written : Octets pointBytes => decodePoint written.bytes) same
  by_cases leftIdentity : left = .identity
  · by_cases rightIdentity : right = .identity
    · rw [leftIdentity, rightIdentity]
    · simp only [leftIdentity, decode_point_identity, decode_point_encode rightIdentity] at decoded
      cases decoded
  · by_cases rightIdentity : right = .identity
    · simp only [rightIdentity, decode_point_identity, decode_point_encode leftIdentity] at decoded
      cases decoded
    · simp only [decode_point_encode leftIdentity, decode_point_encode rightIdentity] at decoded
      exact Except.ok.inj decoded

/-- A spelling is the written one just if its tag is that of a parity. -/
theorem encode_of_decode_point_iff {bytes : List Byte} {point : Point}
    (decoded : decodePoint bytes = .ok point) :
    (encodePoint point).bytes = bytes ↔ bytes.head? = some 2 ∨ bytes.head? = some 3 := by
  cases decode_point_ok_iff.mp decoded with
  | parity odd onCurve abscissa sameParity =>
      have written := encode_of_decode_compressed
        (decode_compressed_of_spells onCurve abscissa sameParity)
      refine iff_of_true written ?_
      cases odd
      · exact Or.inl rfl
      · exact Or.inr rfl
  | even onCurve abscissa even =>
      have written := encode_of_decode_compressed
        (decode_compressed_of_spells onCurve abscissa even)
      rw [written]
      simp [parityTag]
  | full onCurve pair =>
      refine iff_of_false ?_ (by simp)
      intro same
      have lengths := congrArg List.length same
      rw [(encodePoint _).length_eq, List.length_cons, pair.length] at lengths
      exact absurd lengths (by decide)

theorem encode_of_decode_point_compact {body : List Byte} {point : Point}
    (decoded : decodePoint (5 :: body) = .ok point) : (encodePoint point).bytes = 2 :: body := by
  have compressed : decodeCompressed false body = .ok point := decoded
  exact encode_of_decode_compressed compressed

/-- Of the length of a written point there is one spelling, and a second one if `y` is even. -/
theorem short_spelling_iff {x y : Coordinate} (onCurve : OnCurve x y) {bytes : List Byte} :
    bytes.length = pointBytes ∧ decodePoint bytes = .ok (.affine x y onCurve) ↔
      bytes = (encodePoint (.affine x y onCurve)).bytes ∨
        (Point.affine x y onCurve).oddY = false ∧ bytes = 5 :: (encodeCoordinate x).bytes := by
  constructor
  · rintro ⟨length, decoded⟩
    cases decode_point_ok_iff.mp decoded with
    | parity odd _ abscissa sameParity =>
        exact Or.inl (encode_of_decode_compressed
          (decode_compressed_of_spells onCurve abscissa sameParity)).symm
    | even _ abscissa even =>
        exact Or.inr ⟨even, congrArg (List.cons 5) ((is_abscissa_iff onCurve).mp abscissa)⟩
    | full _ pair =>
        rw [List.length_cons, pair.length] at length
        exact absurd length (by decide)
  · have notIdentity : Point.affine x y onCurve ≠ .identity := Point.noConfusion
    rintro (rfl | ⟨even, rfl⟩)
    · exact ⟨(encodePoint _).length_eq, decode_point_encode notIdentity⟩
    · refine ⟨congrArg (· + 1) (encodeCoordinate x).length_eq, ?_⟩
      exact decode_point_ok_iff.mpr (.even onCurve ((is_abscissa_iff onCurve).mpr rfl) even)

theorem short_spellings_card {point : Point} (notIdentity : point ≠ .identity) :
    {bytes | bytes.length = pointBytes ∧ decodePoint bytes = .ok point}.ncard =
      if point.oddY then 1 else 2 := by
  cases point with
  | identity => exact absurd rfl notIdentity
  | affine x y onCurve =>
      simp only [short_spelling_iff onCurve]
      cases parity : (Point.affine x y onCurve).oddY with
      | true => simp
      | false =>
          have different : (encodePoint (.affine x y onCurve)).bytes ≠
              5 :: (encodeCoordinate x).bytes := by
            intro same
            have tags := congrArg List.head? same
            change some (parityTag (Point.affine x y onCurve).oddY) = some 5 at tags
            rw [parity] at tags
            exact absurd tags (by decide)
          simp only [true_and, Bool.false_eq_true, if_false]
          exact Set.ncard_pair different

theorem decode_scalar_ok_iff {bytes : List Byte} {scalar : Scalar} :
    decodeScalar bytes = .ok scalar ↔ bytes = (encodeScalar scalar).bytes := by
  constructor
  · intro decoded
    unfold decodeScalar at decoded
    split_ifs at decoded with length inRange
    cases decoded
    change bytes = bigEndian 32 (bigEndianValue bytes)
    rw [← show bytes.length = 32 from length, big_endian_of_value]
  · rintro rfl
    exact decode_scalar_encode scalar

theorem decode_scalar_accepts_iff {bytes : List Byte} :
    (∃ scalar, decodeScalar bytes = .ok scalar) ↔
      bytes.length = scalarBytes ∧ bigEndianValue bytes < groupOrder := by
  constructor
  · rintro ⟨scalar, decoded⟩
    rw [decode_scalar_ok_iff.mp decoded]
    exact ⟨(encodeScalar scalar).length_eq, encode_scalar_value scalar ▸ scalar.isLt⟩
  · rintro ⟨length, inRange⟩
    refine ⟨⟨bigEndianValue bytes, inRange⟩, ?_⟩
    rw [decodeScalar, if_pos length, dif_pos inRange]

structure FormatLaw (bytes : List Byte) (point : Point) (scalar : Scalar) : Prop where
  point_iff : decodePoint bytes = .ok point ↔ Spells bytes point
  point_accepted : (∃ read, decodePoint bytes = .ok read) ↔
    (∃ tag ∈ ([2, 3, 5] : List Byte), ∃ body x, bytes = tag :: body ∧ IsAbscissa body x) ∨
      ∃ body x y, bytes = 4 :: body ∧ IsCoordinatePair body x y
  not_identity : decodePoint bytes = .ok point → point ≠ .identity
  point_injective : ∀ other, encodePoint point = encodePoint other → point = other
  point_restored : decodePoint (encodePoint point).bytes =
    if point = .identity then .error .pointForm else .ok point
  point_rewritten : decodePoint bytes = .ok point →
    ((encodePoint point).bytes = bytes ↔ bytes.head? = some 2 ∨ bytes.head? = some 3)
  compact_rewritten : decodePoint (5 :: bytes) = .ok point → (encodePoint point).bytes = 2 :: bytes
  spellings : point ≠ .identity →
    {short | short.length = pointBytes ∧ decodePoint short = .ok point}.ncard =
      if point.oddY then 1 else 2
  scalar_accepted : (∃ read, decodeScalar bytes = .ok read) ↔
    bytes.length = scalarBytes ∧ bigEndianValue bytes < groupOrder
  scalar_rewritten : decodeScalar bytes = .ok scalar → (encodeScalar scalar).bytes = bytes
  scalar_restored : decodeScalar (encodeScalar scalar).bytes = .ok scalar

/-- Points and scalars have exactly these spellings. -/
theorem point_and_scalar_formats (bytes : List Byte) (point : Point) (scalar : Scalar) :
    FormatLaw bytes point scalar := by
  constructor
  case point_iff => exact decode_point_ok_iff
  case point_accepted => exact decode_point_accepts_iff
  case not_identity => exact decode_point_ne_identity
  case point_injective => exact fun _ same => encode_point_injective same
  case point_restored =>
    by_cases identity : point = .identity
    · rw [if_pos identity, identity, decode_point_identity]
    · rw [if_neg identity, decode_point_encode identity]
  case point_rewritten => exact encode_of_decode_point_iff
  case compact_rewritten => exact encode_of_decode_point_compact
  case spellings => exact short_spellings_card
  case scalar_accepted => exact decode_scalar_accepts_iff
  case scalar_rewritten => exact fun decoded => (decode_scalar_ok_iff.mp decoded).symm
  case scalar_restored => exact decode_scalar_encode scalar

end ObliviousTransfer
