import ObliviousTransfer.Command.Run
import ObliviousTransfer.Proofs.Session.Conversation
import ObliviousTransfer.Proofs.Session.Execution

/-!
How an execution ends. With a consistent setup both sides hold the pad of the
choice, unless the sent point is the identity, which has no encoding that is
accepted. With other setups the sender's check is the only one that can fail.
-/

namespace ObliviousTransfer

theorem execute_result_under [KeyedHash] (key : Octets nonceBytes) (senderSetup : SenderSetup)
    (receiverSetup : ReceiverSetup) (choice : Bool) (tape : Tape) :
    let hash := KeyedHash.hash key
    let values := exchange hash senderSetup receiverSetup.publicKey choice tape.scalar.1
    (execute key.bytes senderSetup receiverSetup choice tape).result =
      if values.point = .identity then .error (.encoding .pointForm)
      else if values.Agrees hash choice then .ok (values.pads, values.received)
      else .error .invalidResponse :=
  congrArg Outcome.result (execute_eq key senderSetup receiverSetup choice tape)

theorem execute_result_refused [KeyedHash] {nonce : List Byte}
    (wrong : nonce.length ≠ nonceBytes) (senderSetup : SenderSetup)
    (receiverSetup : ReceiverSetup) (choice : Bool) (tape : Tape) :
    (execute nonce senderSetup receiverSetup choice tape).result =
      .error (.nonceLength nonce.length) :=
  congrArg Outcome.result (execute_refused wrong senderSetup receiverSetup choice tape)

theorem execute_tape [KeyedHash] (key : Octets nonceBytes) (senderSetup : SenderSetup)
    (receiverSetup : ReceiverSetup) (choice : Bool) (tape : Tape) :
    (execute key.bytes senderSetup receiverSetup choice tape).tape = tape.scalar.2 :=
  congrArg Outcome.tape (execute_eq key senderSetup receiverSetup choice tape)

theorem execute_tape_refused [KeyedHash] {nonce : List Byte} (wrong : nonce.length ≠ nonceBytes)
    (senderSetup : SenderSetup) (receiverSetup : ReceiverSetup) (choice : Bool) (tape : Tape) :
    (execute nonce senderSetup receiverSetup choice tape).tape = tape :=
  congrArg Outcome.tape (execute_refused wrong senderSetup receiverSetup choice tape)

theorem converse_of_consistent [KeyedHash] (key : Octets nonceBytes) {setup : SenderSetup}
    (consistent : setup.Consistent) (choice : Bool) (tape : Tape) :
    let hash := KeyedHash.hash key
    let values := exchange hash setup setup.publicKey choice tape.scalar.1
    values.point ≠ .identity →
      converse key.bytes setup ⟨setup.publicKey⟩ choice tape = .ok (values.conversation hash) := by
  intro hash values notIdentity
  have agrees : values.Agrees hash choice :=
    Exchange.agrees_of_consistent hash choice consistent _
  rw [converse_eq]
  exact (if_neg notIdentity).trans (if_pos agrees)

/-- Between honest parties the receiver ends up with the pad of its choice. -/
theorem execute_gives_chosen_pad [KeyedHash] (key : Octets nonceBytes) {setup : SenderSetup}
    (consistent : setup.Consistent) (choice : Bool) (tape : Tape) :
    let hash := KeyedHash.hash key
    let a := tape.scalar.1
    let sent := a • Point.generator + if choice then setup.publicKey else 0
    let shared := setup.secret • sent
    let pads : PadPair :=
      { rand0 := hash (encodePoint shared).bytes
        rand1 := hash (encodePoint (shared - setup.secret • setup.publicKey)).bytes }
    let pad := hash (encodePoint (a • setup.publicKey)).bytes
    pad = pads.pick choice ∧
      (execute key.bytes setup ⟨setup.publicKey⟩ choice tape).result =
        if sent = .identity then .error (.encoding .pointForm) else .ok (pads, pad) := by
  intro hash a sent shared pads pad
  let values := exchange hash setup setup.publicKey choice a
  have derived : pads = values.pads := by
    change _ = setup.padsFor hash sent
    rw [SenderSetup.padsFor, consistent.secretKey]
  have agrees : values.Agrees hash choice :=
    Exchange.agrees_of_consistent hash choice consistent a
  have result := execute_result_under key setup ⟨setup.publicKey⟩ choice tape
  constructor
  · rw [derived]
    exact Exchange.received_eq_pick hash choice consistent a
  · rw [derived]
    refine result.trans ?_
    by_cases identity : sent = .identity
    · rw [if_pos identity]
      exact if_pos identity
    · rw [if_neg identity]
      exact (if_neg identity).trans (if_pos agrees)

/-- The secret three and the receiver's scalar five, with the choice that adds the key. -/
theorem execute_gives_chosen_pad_at_three :
    let secret : Scalar := 3
    let publicKey := secret • Point.generator
    let setup : SenderSetup := ⟨secret, publicKey, secret • publicKey⟩
    let tape := Tape.ofBytes (encodeScalar 5).bytes
    setup.Consistent ∧ ∃ pads pad, pad = pads.pick true ∧
      (execute (Octets.zero nonceBytes).bytes setup ⟨publicKey⟩ true tape).result =
        .ok (pads, pad) := by
  intro secret publicKey setup tape
  have consistent : setup.Consistent := ⟨rfl, rfl⟩
  have drawn : tape.scalar.1 = 5 := Tape.scalar_of_encoded 5
  have sent : tape.scalar.1 • Point.generator + publicKey ≠ .identity := by
    rw [drawn]
    decide +kernel
  obtain ⟨chosen, result⟩ :=
    execute_gives_chosen_pad (Octets.zero nonceBytes) consistent true tape
  exact ⟨consistent, _, _, chosen, result.trans (if_neg sent)⟩

theorem run_one_pad_mismatch [KeyedHash] {sender : SenderSetup} {receiver : ReceiverSetup}
    {rule : ChoiceRule} {start tape : Tape} {key : Octets nonceBytes} {choice : Bool}
    (nonce : (start.octets nonceBytes).1 = key)
    (draw : rule.draw (start.octets nonceBytes).2 = (choice, tape))
    (mismatch : Command.runOne sender receiver rule start = .error .padMismatch) :
    ∃ kept, (execute key.bytes sender receiver choice tape).result = .ok kept ∧
      kept.2 ≠ kept.1.pick choice := by
  simp only [Command.runOne, nonce, draw] at mismatch
  split at mismatch
  · cases mismatch
  · next pads pad result =>
    by_cases same : pad = pads.pick choice
    · rw [if_pos same] at mismatch
      cases mismatch
    · exact ⟨(pads, pad), result, same⟩

/-- Under any setups an execution ends in one of four ways. -/
theorem execute_ends [KeyedHash] (nonce : List Byte) (senderSetup : SenderSetup)
    (receiverSetup : ReceiverSetup) (choice : Bool) (tape : Tape) :
    let outcome := execute nonce senderSetup receiverSetup choice tape
    (nonce.length ≠ nonceBytes →
      outcome.result = .error (.nonceLength nonce.length) ∧ outcome.tape = tape) ∧
    (∀ key : Octets nonceBytes, key.bytes = nonce →
      let hash := KeyedHash.hash key
      let a := tape.scalar.1
      let sent := a • Point.generator + if choice then receiverSetup.publicKey else 0
      let pads := senderSetup.padsFor hash sent
      let pad := hash (encodePoint (a • receiverSetup.publicKey)).bytes
      outcome.tape = tape.scalar.2 ∧
      (outcome.result =
        if sent = .identity then .error (.encoding .pointForm)
        else if hashTwice hash pad = hashTwice hash (pads.pick choice) then .ok (pads, pad)
        else .error .invalidResponse) ∧
      (Set.InjOn (hashTwice hash) {pad, pads.pick choice} →
        (∀ kept, outcome.result = .ok kept → kept.2 = kept.1.pick choice) ∧
        ∀ (rule : ChoiceRule) (start : Tape), (start.octets nonceBytes).1 = key →
          rule.draw (start.octets nonceBytes).2 = (choice, tape) →
          Command.runOne senderSetup receiverSetup rule start ≠ .error .padMismatch)) ∧
    ∀ failure, outcome.result = .error failure →
      failure = .nonceLength nonce.length ∨ failure = .encoding .pointForm ∨
        failure = .invalidResponse := by
  intro outcome
  refine ⟨fun wrong => ⟨execute_result_refused wrong _ _ _ _, execute_tape_refused wrong _ _ _ _⟩,
    ?_, ?_⟩
  · intro key same hash a sent pads pad
    subst same
    have result := execute_result_under key senderSetup receiverSetup choice tape
    have chosen (separates : Set.InjOn (hashTwice hash) {pad, pads.pick choice})
        (kept : PadPair × Pad) (succeeds : outcome.result = .ok kept) :
        kept.2 = kept.1.pick choice := by
      have ends := result.symm.trans succeeds
      split_ifs at ends with identity agrees
      cases ends
      exact separates (Set.mem_insert _ _) (Set.mem_insert_of_mem _ rfl) agrees
    refine ⟨execute_tape key senderSetup receiverSetup choice tape, result,
      fun separates => ⟨chosen separates, ?_⟩⟩
    intro rule start nonce draw mismatch
    obtain ⟨kept, succeeds, differs⟩ := run_one_pad_mismatch nonce draw mismatch
    exact differs (chosen separates kept succeeds)
  · intro failure fails
    by_cases fits : nonce.length = nonceBytes
    · have result := execute_result_under ⟨nonce, fits⟩ senderSetup receiverSetup choice tape
      have ends := result.symm.trans fails
      split_ifs at ends
      · cases ends
        exact Or.inr (Or.inl rfl)
      · cases ends
        exact Or.inr (Or.inr rfl)
    · have ends := (execute_result_refused fits _ _ _ _).symm.trans fails
      cases ends
      exact Or.inl rfl

end ObliviousTransfer
