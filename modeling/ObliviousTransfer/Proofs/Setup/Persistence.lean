import ObliviousTransfer.Proofs.Message.Wire
import ObliviousTransfer.Proofs.Session.Outcome

/-!
Setups that have been saved. A setup comes back from its text as it was, and the
text is read field by field: nothing relates the key and the product in it to
the secret. A setup that is loaded may so lack the equations that every created
one has, and if only the product is wrong it serves the choice zero alone.
-/

namespace ObliviousTransfer

theorem SenderSetup.format_restores {setup : SenderSetup} (publicKey : setup.publicKey ≠ .identity)
    (secretKey : setup.secretKey ≠ .identity) : format.Restores setup := by
  apply Json.Format.transport_restores
  · apply Json.Format.record_restores ⟨by decide, by simp [Json.Fields.names, Json.Plain]⟩
    exact ⟨Json.scalar_restores setup.secret, Json.point_restores publicKey,
      Json.point_restores secretKey, trivial⟩
  · rfl

theorem ReceiverSetup.format_restores {setup : ReceiverSetup}
    (publicKey : setup.publicKey ≠ .identity) : format.Restores setup := by
  apply Json.Format.transport_restores
  · apply Json.Format.record_restores ⟨by decide, by simp [Json.Fields.names, Json.Plain]⟩
    exact ⟨Json.point_restores publicKey, trivial⟩
  · rfl

theorem SenderSetup.format_reads_whole (setup : SenderSetup) : format.ReadsWhole setup := by
  apply Json.Format.transport_reads_whole
  apply Json.Format.record_reads_whole
  · exact ⟨Json.Format.text_takes_front _ _, Json.Format.text_takes_front _ _,
      Json.Format.text_takes_front _ _, trivial⟩
  · exact ⟨by decide, fun _ _ => Json.hex_unbraced _, by decide, fun _ _ => Json.hex_unbraced _,
      by decide, fun _ _ => Json.hex_unbraced _, trivial⟩

theorem ReceiverSetup.format_reads_whole (setup : ReceiverSetup) : format.ReadsWhole setup := by
  apply Json.Format.transport_reads_whole
  apply Json.Format.record_reads_whole
  · exact ⟨Json.Format.text_takes_front _ _, trivial⟩
  · exact ⟨by decide, fun _ _ => Json.hex_unbraced _, trivial⟩

theorem Setup.created_consistent {context : List Byte} {tape : Tape} {message : SetupMessage}
    {setup : SenderSetup} (created : (create context tape).result = .ok (message, setup)) :
    setup.Consistent := by
  cases created
  exact ⟨rfl, rfl⟩

section Choices

variable [KeyedHash] (key : Octets nonceBytes) {setup : SenderSetup} {tape : Tape}

/-- With a point that is accepted, only disagreeing pads make an execution fail. -/
theorem execute_of_point {choice : Bool}
    (notIdentity : tape.scalar.1 • Point.generator + (if choice then setup.publicKey else 0) ≠
      .identity) :
    let values := exchange (KeyedHash.hash key) setup setup.publicKey choice tape.scalar.1
    (execute key.bytes setup ⟨setup.publicKey⟩ choice tape).result =
      if values.Agrees (KeyedHash.hash key) choice then .ok (values.pads, values.received)
      else .error .invalidResponse :=
  (execute_result_under key setup ⟨setup.publicKey⟩ choice tape).trans (if_neg notIdentity)

theorem execute_succeeds_iff {choice : Bool}
    (notIdentity : tape.scalar.1 • Point.generator + (if choice then setup.publicKey else 0) ≠
      .identity) :
    (∃ kept, (execute key.bytes setup ⟨setup.publicKey⟩ choice tape).result = .ok kept) ↔
      (exchange (KeyedHash.hash key) setup setup.publicKey choice tape.scalar.1).Agrees
        (KeyedHash.hash key) choice := by
  rw [execute_of_point key notIdentity]
  constructor
  · rintro ⟨kept, succeeds⟩
    split_ifs at succeeds with agrees
    exact agrees
  · intro agrees
    exact ⟨_, if_pos agrees⟩

theorem execute_choice_zero (published : setup.publicKey = setup.secret • Point.generator)
    (notIdentity : tape.scalar.1 • Point.generator + 0 ≠ .identity) :
    ∃ kept, (execute key.bytes setup ⟨setup.publicKey⟩ false tape).result = .ok kept :=
  (execute_succeeds_iff key notIdentity).mpr
    (congrArg (hashTwice (KeyedHash.hash key)) (Exchange.received_eq_rand0 _ published _))

/-- For the choice one the product of secret and key has to be right too. -/
theorem execute_choice_one_iff (published : setup.publicKey = setup.secret • Point.generator)
    (notIdentity : tape.scalar.1 • Point.generator + setup.publicKey ≠ .identity)
    (separates : Set.InjOn
      (fun point => hashTwice (KeyedHash.hash key)
        (KeyedHash.hash key (encodePoint point).bytes))
      {tape.scalar.1 • setup.publicKey,
        setup.secret • (tape.scalar.1 • Point.generator + setup.publicKey) - setup.secretKey}) :
    (∃ kept, (execute key.bytes setup ⟨setup.publicKey⟩ true tape).result = .ok kept) ↔
      setup.secretKey = setup.secret • setup.publicKey := by
  rw [execute_succeeds_iff key notIdentity]
  constructor
  · intro agrees
    have shared := separates (Set.mem_insert _ _) (Set.mem_insert_of_mem _ rfl) agrees
    exact (Exchange.shared_eq_iff published _).mp shared
  · intro secretKey
    exact Exchange.agrees_of_consistent _ true ⟨published, secretKey⟩ _

end Choices

/-- A created setup satisfies both equations and serves both choices. Any setup comes back from its
own text, and one in which the product is wrong serves the choice zero alone. -/
theorem sender_setup_persistence [KeyedHash] (key : Octets nonceBytes) (setup : SenderSetup)
    (tape : Tape) :
    let hash := KeyedHash.hash key
    let a := tape.scalar.1
    let sent (choice : Bool) := a • Point.generator + if choice then setup.publicKey else 0
    let result (choice : Bool) := (execute key.bytes setup ⟨setup.publicKey⟩ choice tape).result
    let pad (point : Point) := hash (encodePoint point).bytes
    (∀ context start message, (Setup.create context start).result = .ok (message, setup) →
      setup.Consistent) ∧
    (setup.publicKey ≠ .identity → setup.secretKey ≠ .identity → ∀ layout,
      Json.load SenderSetup.format (Json.save SenderSetup.format layout setup) = .ok setup) ∧
    (setup.Consistent → ∀ choice, sent choice ≠ .identity → ∃ kept, result choice = .ok kept) ∧
    (setup.publicKey = setup.secret • Point.generator →
      sent false ≠ .identity → sent true ≠ .identity →
      Set.InjOn (fun point => hashTwice hash (pad point))
        {a • setup.publicKey, setup.secret • sent true - setup.secretKey} →
      (∃ kept, result false = .ok kept) ∧
        ((∃ kept, result true = .ok kept) ↔ setup.secretKey = setup.secret • setup.publicKey)) := by
  intro hash a sent result pad
  refine ⟨?_, ?_, ?_, ?_⟩
  · intro context start message created
    exact Setup.created_consistent created
  · intro publicKey secretKey layout
    exact Json.load_save (SenderSetup.format_restores publicKey secretKey) layout
  · intro consistent choice notIdentity
    exact (execute_succeeds_iff key notIdentity).mpr
      (Exchange.agrees_of_consistent _ choice consistent _)
  · intro published zeroPoint onePoint separates
    exact ⟨execute_choice_zero key published zeroPoint,
      execute_choice_one_iff key published onePoint separates⟩

/-- The secret one with twice its key as the product. -/
theorem inconsistent_setup_serves_one_choice :
    let setup : SenderSetup := ⟨1, Point.generator, (2 : Scalar) • Point.generator⟩
    let key := Octets.zero nonceBytes
    let tape := Tape.ofBytes (encodeScalar 5).bytes
    Json.load SenderSetup.format (Json.save SenderSetup.format .compact setup) = .ok setup ∧
      Json.load ReceiverSetup.format (Json.save ReceiverSetup.format .compact ⟨setup.publicKey⟩) =
        .ok ⟨setup.publicKey⟩ ∧
      setup.publicKey = setup.secret • Point.generator ∧ ¬setup.Consistent ∧
      (∃ kept, (execute key.bytes setup ⟨setup.publicKey⟩ false tape).result = .ok kept) ∧
      (execute key.bytes setup ⟨setup.publicKey⟩ true tape).result = .error .invalidResponse := by
  intro setup key tape
  have drawn : tape.scalar.1 = 5 := Tape.scalar_of_encoded 5
  have published : setup.publicKey = setup.secret • Point.generator := by decide +kernel
  have publicKey : setup.publicKey ≠ .identity := Point.noConfusion
  have secretKey : setup.secretKey ≠ .identity := by decide +kernel
  have zeroPoint : tape.scalar.1 • Point.generator + 0 ≠ .identity := by
    rw [drawn]
    decide +kernel
  have onePoint : tape.scalar.1 • Point.generator + setup.publicKey ≠ .identity := by
    rw [drawn]
    decide +kernel
  have disagree : ¬(exchange (KeyedHash.hash key) setup setup.publicKey true tape.scalar.1).Agrees
      (KeyedHash.hash key) true := by
    rw [drawn]
    decide +kernel
  refine ⟨Json.load_save (SenderSetup.format_restores publicKey secretKey) _,
    Json.load_save (ReceiverSetup.format_restores publicKey) _, published, ?_,
    execute_choice_zero key published zeroPoint, ?_⟩
  · intro consistent
    exact disagree (Exchange.agrees_of_consistent _ true consistent _)
  · exact (execute_of_point key onePoint).trans (if_neg disagree)

end ObliviousTransfer
