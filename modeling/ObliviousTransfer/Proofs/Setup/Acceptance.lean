import ObliviousTransfer.Proofs.Setup.Completeness

/-!
What the receiver accepts as a setup. A message is valid if its parts can be
read and satisfy one equation; all that can be wrong with it ends in the same
failure. The key counts as a point, the commitment as the bytes that were sent.
-/

namespace ObliviousTransfer

namespace Setup

/-- The labelled messages that the challenge of a setup depends on. -/
def statement (context : List Byte) (publicKey : Point) (commitment : Octets pointBytes) :
    List (List Byte × List Byte) :=
  [(utf8 "dlog-proof/context", context),
    (utf8 "dlog-proof/public-key", (encodePoint publicKey).bytes),
    (utf8 "dlog-proof/commitment", commitment.bytes)]

def challengeAfter (messages : List (List Byte × List Byte)) : Scalar :=
  let fed := messages.foldl
    (fun transcript (label, message) => transcript.append label message) transcript
  Scalar.reduce (bigEndianValue (fed.challenge (utf8 "dlog-proof/challenge") 32).1)

theorem challenge_after_statement (context : List Byte) (publicKey : Point)
    (commitment : Octets pointBytes) :
    (KeyProof.challenge transcript publicKey commitment context).1 =
      challengeAfter (statement context publicKey commitment) := rfl

theorem statement_commitment_inj {context : List Byte} {publicKey : Point}
    {left right : Octets pointBytes} :
    statement context publicKey left = statement context publicKey right ↔ left = right := by
  constructor
  · intro same
    have last := congrArg (fun messages => messages.getLast?.map Prod.snd) same
    exact Octets.ext (Option.some.inj last)
  · intro same
    rw [same]

end Setup

namespace SetupMessage

/-- The message proves that its sender knows the secret of the key. -/
structure Valid (context : List Byte) (message : SetupMessage) (publicKey : Point) : Prop where
  key : decodePoint message.publicKey.bytes = .ok publicKey
  proof : ∃ commitment response,
    decodePoint message.proof.commitment.bytes = .ok commitment ∧
      decodeScalar message.proof.response.bytes = .ok response ∧
      response • Point.generator = commitment +
        Setup.challengeAfter (Setup.statement context publicKey message.proof.commitment) •
          publicKey

def withCommitment (message : SetupMessage) (commitment : Octets pointBytes) : SetupMessage :=
  { message with proof := { message.proof with commitment } }

end SetupMessage

def spelling (tag : Byte) (x : Octets 32) : Octets pointBytes := (⟨[tag], rfl⟩ : Octets 1).append x

theorem decode_spelling_compact (x : Octets 32) :
    decodePoint (spelling 5 x).bytes = decodePoint (spelling 2 x).bytes :=
  decode_point_compact x.bytes

theorem decode_spelling_even {x : Octets 32} {point : Point}
    (decoded : decodePoint (spelling 2 x).bytes = .ok point) :
    encodePoint point = spelling 2 x ∧ point.oddY = false := by
  have compressed : decodeCompressed false x.bytes = .ok point := decoded
  constructor
  · exact Octets.ext (encode_of_decode_compressed compressed)
  · obtain ⟨_, _, _, _, parity, same⟩ := decode_compressed_ok_iff.mp compressed
    rw [same]
    exact parity

namespace Setup

variable {context : List Byte} {message : SetupMessage}

theorem accept_ok_iff {publicKey : Point} :
    (accept context message).value = .ok ⟨publicKey⟩ ↔ message.Valid context publicKey := by
  cases decoded : decodePoint message.publicKey.bytes with
  | error fault =>
      rw [accept_of_refused decoded]
      constructor
      · exact fun accepted => nomatch accepted
      · intro valid
        cases decoded.symm.trans valid.key
  | ok point =>
      have verified := KeyProof.verify_fst_iff message.proof transcript point context
      rw [challenge_after_statement] at verified
      rw [accept_of_decoded decoded]
      constructor
      · intro accepted
        split_ifs at accepted with proved
        cases accepted
        exact ⟨decoded, verified.mp proved⟩
      · intro valid
        cases decoded.symm.trans valid.key
        rw [if_pos (verified.mpr valid.proof)]

theorem accept_cases (context : List Byte) (message : SetupMessage) :
    (∃ publicKey, (accept context message).value = .ok ⟨publicKey⟩) ∨
      (accept context message).value = .error .proofInvalid := by
  cases decoded : decodePoint message.publicKey.bytes with
  | error fault => exact Or.inr (accept_of_refused decoded)
  | ok point =>
      rw [accept_of_decoded decoded]
      split_ifs
      · exact Or.inl ⟨point, rfl⟩
      · exact Or.inr rfl

theorem accept_of_invalid (invalid : ¬∃ publicKey, message.Valid context publicKey) :
    (accept context message).value = .error .proofInvalid := by
  rcases accept_cases context message with ⟨publicKey, accepted⟩ | refused
  · exact absurd ⟨publicKey, accept_ok_iff.mp accepted⟩ invalid
  · exact refused

theorem accept_congr {other : SetupMessage}
    (same : ∀ publicKey, other.Valid context publicKey ↔ message.Valid context publicKey) :
    (accept context other).value = (accept context message).value := by
  rcases accept_cases context message with ⟨publicKey, accepted⟩ | refused
  · rw [accepted, accept_ok_iff, same, ← accept_ok_iff, accepted]
  · rw [refused]
    apply accept_of_invalid
    rintro ⟨publicKey, valid⟩
    cases refused.symm.trans (accept_ok_iff.mpr ((same publicKey).mp valid))

variable (context message) in
/-- The bytes of the key count only for the point that they stand for. -/
theorem accept_respelled_key {key : Octets pointBytes}
    (same : ∀ point, decodePoint key.bytes = .ok point ↔
      decodePoint message.publicKey.bytes = .ok point) :
    (accept context { message with publicKey := key }).value = (accept context message).value := by
  apply accept_congr
  intro publicKey
  exact ⟨fun valid => ⟨(same publicKey).mp valid.key, valid.proof⟩,
    fun valid => ⟨(same publicKey).mpr valid.key, valid.proof⟩⟩

theorem accept_respelled_commitment_iff {publicKey : Point} {commitment : Octets pointBytes}
    (valid : message.Valid context publicKey)
    (same : ∀ point, decodePoint commitment.bytes = .ok point ↔
      decodePoint message.proof.commitment.bytes = .ok point) :
    (accept context (message.withCommitment commitment)).value = .ok ⟨publicKey⟩ ↔
      challengeAfter (statement context publicKey commitment) =
        challengeAfter (statement context publicKey message.proof.commitment) := by
  obtain ⟨key, point, response, decodedPoint, decodedResponse, equation⟩ := valid
  rw [accept_ok_iff]
  constructor
  · rintro ⟨_, otherPoint, otherResponse, otherDecodedPoint, otherDecodedResponse, otherEquation⟩
    cases decodedPoint.symm.trans ((same _).mp otherDecodedPoint)
    cases decodedResponse.symm.trans otherDecodedResponse
    have multiples := add_left_cancel (otherEquation.symm.trans equation)
    exact (Point.smul_point_inj (decode_point_ne_identity key)).mp multiples
  · intro sameChallenge
    rw [← sameChallenge] at equation
    exact ⟨key, point, response, (same _).mpr decodedPoint, decodedResponse, equation⟩

/-- With the compact tag a commitment is the same point, but under another challenge its proof is
refused. -/
theorem accept_compact_commitment {publicKey : Point} {x : Octets 32}
    (valid : message.Valid context publicKey) (even : message.proof.commitment = spelling 2 x)
    (differ : challengeAfter (statement context publicKey (spelling 5 x)) ≠
      challengeAfter (statement context publicKey (spelling 2 x))) :
    (accept context (message.withCommitment (spelling 5 x))).value = .error .proofInvalid := by
  apply accept_of_invalid
  rintro ⟨other, otherValid⟩
  cases valid.key.symm.trans otherValid.key
  have accepted := (accept_respelled_commitment_iff valid (by
    intro point
    rw [even, decode_spelling_compact])).mp (accept_ok_iff.mpr otherValid)
  rw [even] at accepted
  exact differ accepted

theorem created_commitment (b k : Scalar) (context : List Byte) :
    (createWith b k context).1.proof.commitment = encodePoint (k • Point.generator) := rfl

structure AcceptanceLaw (context : List Byte) (message : SetupMessage) : Prop where
  ok_iff : ∀ publicKey,
    (accept context message).value = .ok ⟨publicKey⟩ ↔ message.Valid context publicKey
  refuses : (¬∃ publicKey, message.Valid context publicKey) →
    (accept context message).value = .error .proofInvalid
  one_failure : ∀ failure,
    (accept context message).value = .error failure → failure = .proofInvalid
  not_identity : ∀ publicKey,
    (accept context message).value = .ok ⟨publicKey⟩ → publicKey ≠ .identity
  key_as_point : ∀ key : Octets pointBytes,
    (∀ point, decodePoint key.bytes = .ok point ↔
      decodePoint message.publicKey.bytes = .ok point) →
    (accept context { message with publicKey := key }).value = (accept context message).value
  even_key : ∀ x point, decodePoint (spelling 2 x).bytes = .ok point →
    encodePoint point = spelling 2 x ∧ point.oddY = false ∧
      decodePoint (spelling 5 x).bytes = .ok point ∧
      (accept context { message with publicKey := spelling 5 x }).value =
        (accept context { message with publicKey := spelling 2 x }).value
  commitment_as_bytes : ∀ publicKey (commitment : Octets pointBytes),
    (accept context message).value = .ok ⟨publicKey⟩ →
    (∀ point, decodePoint commitment.bytes = .ok point ↔
      decodePoint message.proof.commitment.bytes = .ok point) →
    let sent := statement context publicKey message.proof.commitment
    let respelled := statement context publicKey commitment
    (respelled = sent ↔ commitment = message.proof.commitment) ∧
      ((accept context (message.withCommitment commitment)).value = .ok ⟨publicKey⟩ ↔
        challengeAfter respelled = challengeAfter sent)
  any_bytes : ∀ bytes : Octets 98, ∃ received,
    SetupMessage.decode bytes.bytes = .ok received ∧ received.encode.bytes = bytes.bytes
  carried : ∀ carriage, ∃ received, SetupMessage.wire.carry carriage message = .ok received ∧
    (accept context received).value = (accept context message).value

end Setup

/-- The receiver accepts just the valid messages, with a key that is not the identity, and refuses
all others with one failure. The key may be spelled in any way, the commitment may not. -/
theorem accept_iff_valid (context : List Byte) (message : SetupMessage) :
    Setup.AcceptanceLaw context message := by
  constructor
  case ok_iff =>
    intro publicKey
    exact Setup.accept_ok_iff
  case refuses => exact Setup.accept_of_invalid
  case one_failure =>
    intro failure refused
    rcases Setup.accept_cases context message with ⟨publicKey, accepted⟩ | invalid
    · cases accepted.symm.trans refused
    · cases invalid.symm.trans refused
      rfl
  case not_identity =>
    intro publicKey accepted
    exact decode_point_ne_identity (Setup.accept_ok_iff.mp accepted).key
  case key_as_point =>
    intro key same
    exact Setup.accept_respelled_key context message same
  case even_key =>
    intro x point decoded
    obtain ⟨canonical, even⟩ := decode_spelling_even decoded
    refine ⟨canonical, even, (decode_spelling_compact x).trans decoded, ?_⟩
    apply Setup.accept_respelled_key context { message with publicKey := spelling 2 x }
    intro _
    rw [decode_spelling_compact]
  case commitment_as_bytes =>
    intro publicKey commitment accepted same
    exact ⟨Setup.statement_commitment_inj,
      Setup.accept_respelled_commitment_iff (Setup.accept_ok_iff.mp accepted) same⟩
  case any_bytes =>
    intro bytes
    have received : receive .setupMessage SetupMessage.size bytes.bytes = .ok bytes :=
      receive_bytes _ bytes
    refine ⟨SetupMessage.ofOctets bytes, ?_, ?_⟩
    · rw [SetupMessage.decode_eq]
      exact congrArg (Except.map SetupMessage.ofOctets) received
    · exact congrArg Octets.bytes (SetupMessage.encode_of_octets bytes)
  case carried =>
    intro carriage
    exact ⟨message, Wire.carry_eq SetupMessage.wire_lossless carriage message, rfl⟩

def generatorX : Octets 32 := .ofNat 32 Point.generator.xCoordinate.val

theorem encode_generator : encodePoint Point.generator = spelling 2 generatorX := rfl

theorem generator_challenges_differ :
    Setup.challengeAfter (Setup.statement [] Point.generator (spelling 5 generatorX)) ≠
      Setup.challengeAfter (Setup.statement [] Point.generator (spelling 2 generatorX)) := by
  decide +kernel

/-- The message whose key and commitment are both the generator. -/
theorem compact_commitment_refused :
    let sent := (Setup.createWith 1 1 []).1
    let respelled := sent.withCommitment (spelling 5 generatorX)
    sent.proof.commitment = spelling 2 generatorX ∧
      decodePoint (spelling 5 generatorX).bytes = decodePoint (spelling 2 generatorX).bytes ∧
      (Setup.accept [] sent).value = .ok ⟨Point.generator⟩ ∧
      (Setup.accept [] respelled).value = .error .proofInvalid := by
  intro sent respelled
  have nonzero : (1 : Scalar) ≠ 0 := by decide
  have once : (1 : Scalar) • Point.generator = Point.generator := by
    rw [Point.scalar_smul_eq, Modular.residue_one, one_smul]
  have even : sent.proof.commitment = spelling 2 generatorX := by
    rw [Setup.created_commitment, once, encode_generator]
  have accepted : (Setup.accept [] sent).value = .ok ⟨Point.generator⟩ := by
    have created := Setup.accept_created 1 1 []
    rw [if_pos ⟨nonzero, nonzero⟩, once] at created
    exact created
  exact ⟨even, decode_spelling_compact generatorX, accepted,
    Setup.accept_compact_commitment (Setup.accept_ok_iff.mp accepted) even
      generator_challenges_differ⟩

end ObliviousTransfer
