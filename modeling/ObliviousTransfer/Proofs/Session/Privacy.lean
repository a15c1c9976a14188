import ObliviousTransfer.Proofs.Session.Outcome

/-!
What a sender can learn of the choice, whatever it sends. A receiver with the
choice one that draws `a` is paired with a receiver with the choice zero that
draws `a + b`: both send the same point. The honest challenge gets the same
answer from both, and any other is a test of the choice that ends the execution
of one of them.
-/

namespace ObliviousTransfer

/-- What a receiver shows to whoever gives it a challenge and openings. -/
structure Receiver.View where
  point : PointMessage
  response : ResponseMessage
  accepted : Bool

def Receiver.view [KeyedHash] (nonce : List Byte) (setup : ReceiverSetup) (choice : Bool)
    (tape : Tape) (challenge : ChallengeMessage) (opening : OpeningMessage) :
    Except Failure Receiver.View := do
  let receiver ← Receiver.start nonce setup choice
  let sent := (receiver.round1 tape).1
  let point ← sent.result
  let answered := sent.session.round2 challenge
  let response ← answered.result
  return ⟨point, response, (answered.session.round3 opening).result.isOk⟩

theorem Receiver.view_eq [KeyedHash] (key : Octets nonceBytes) (setup : ReceiverSetup)
    (choice : Bool) (tape : Tape) (challenge : ChallengeMessage) (opening : OpeningMessage) :
    let hash := KeyedHash.hash key
    let a := tape.scalar.1
    let pad := hash (encodePoint (a • setup.publicKey)).bytes
    Receiver.view key.bytes setup choice tape challenge opening =
      .ok
        { point := ⟨encodePoint (a • Point.generator + if choice then setup.publicKey else 0)⟩
          response := ⟨responseTo hash choice pad challenge.challenge⟩
          accepted :=
            Receiver.opens hash choice challenge.challenge (hashTwice hash pad) opening } := by
  intro hash a pad
  rw [view, start_eq]
  simp only [except_bind_eq, Except.bind, round1_eq, round2_eq, round3_result]
  cases opened : opens hash choice challenge.challenge (hashTwice hash pad) opening with
  | false => rfl
  | true => rfl

section Masks

variable (hash : List Byte → Pad) (pad0 pad1 challenge : Pad)

/-- Only the sum of both hashes gets the same response for both choices. -/
theorem response_eq_iff :
    responseTo hash false pad0 challenge = responseTo hash true pad1 challenge ↔
      challenge = (hashTwice hash pad0).xor (hashTwice hash pad1) := by
  change hashTwice hash pad0 = (hashTwice hash pad1).xor challenge ↔ _
  rw [eq_comm, Octets.xor_comm, Octets.xor_eq_iff]

variable {hash pad0 pad1 challenge} {opening : OpeningMessage}

theorem opens_both_choices
    (honest : challenge = (hashTwice hash pad0).xor (hashTwice hash pad1)) :
    Receiver.opens hash false challenge (hashTwice hash pad0) opening =
      Receiver.opens hash true challenge (hashTwice hash pad1) opening := by
  rw [Bool.eq_iff_iff, Receiver.opens_iff, Receiver.opens_iff]
  apply and_congr_right
  intro sum
  rw [honest] at sum
  constructor
  · intro first
    change hash opening.decommit0.bytes = _ at first
    rw [first] at sum
    exact (Octets.xor_left_inj.mp sum).symm
  · intro second
    change hash opening.decommit1.bytes = _ at second
    rw [second] at sum
    exact (Octets.xor_right_inj.mp sum).symm

theorem challenge_eq_of_opens
    (opens0 : Receiver.opens hash false challenge (hashTwice hash pad0) opening = true)
    (opens1 : Receiver.opens hash true challenge (hashTwice hash pad1) opening = true) :
    challenge = (hashTwice hash pad0).xor (hashTwice hash pad1) := by
  obtain ⟨sum, first⟩ := Receiver.opens_iff.mp opens0
  obtain ⟨_, second⟩ := Receiver.opens_iff.mp opens1
  rw [sum, ← first, ← second]
  rfl

end Masks

theorem coupled_shared1 (b a1 : Scalar) :
    a1 • b • Point.generator =
      b • (a1 • Point.generator + b • Point.generator) - b • b • Point.generator := by
  simp only [Point.scalar_smul_eq]
  module

section Coupling

variable {b a0 a1 : Scalar} (coupled : a0 = a1 + b)
include coupled

theorem coupled_point :
    a0 • Point.generator + 0 = a1 • Point.generator + b • Point.generator := by
  rw [coupled]
  simp only [Point.scalar_smul_eq, Modular.residue_add]
  module

theorem coupled_shared0 :
    a0 • b • Point.generator = b • (a1 • Point.generator + b • Point.generator) := by
  rw [coupled]
  simp only [Point.scalar_smul_eq, Modular.residue_add]
  module

end Coupling

/-- The receiver's choice is private: the runs of both choices are paired one to one. -/
theorem choice_private [KeyedHash] (key : Octets nonceBytes) (b : Scalar) {tape0 tape1 : Tape}
    (coupled : tape0.scalar.1 = tape1.scalar.1 + b) :
    let hash := KeyedHash.hash key
    let publicKey := b • Point.generator
    let sent := tape1.scalar.1 • Point.generator + publicKey
    let h0 := hashTwice hash (hash (encodePoint (b • sent)).bytes)
    let h1 := hashTwice hash (hash (encodePoint (b • sent - b • publicKey)).bytes)
    (∀ (challenge : ChallengeMessage) (opening : OpeningMessage), ∃ view0 view1,
      Receiver.view key.bytes ⟨publicKey⟩ false tape0 challenge opening = .ok view0 ∧
      Receiver.view key.bytes ⟨publicKey⟩ true tape1 challenge opening = .ok view1 ∧
      view0.point = ⟨encodePoint sent⟩ ∧ view1.point = ⟨encodePoint sent⟩ ∧
      (challenge.challenge = h0.xor h1 →
        view0.response = view1.response ∧ view0.accepted = view1.accepted) ∧
      (challenge.challenge ≠ h0.xor h1 →
        view0.response ≠ view1.response ∧ ¬(view0.accepted = true ∧ view1.accepted = true))) ∧
    (sent ≠ .identity → ∃ conversation0 conversation1,
      converse key.bytes ⟨b, publicKey, b • publicKey⟩ ⟨publicKey⟩ false tape0 =
        .ok conversation0 ∧
      converse key.bytes ⟨b, publicKey, b • publicKey⟩ ⟨publicKey⟩ true tape1 =
        .ok conversation1 ∧
      conversation0.point = conversation1.point ∧
      conversation0.challenge = conversation1.challenge ∧
      conversation0.response = conversation1.response ∧
      conversation0.opening = conversation1.opening ∧
      conversation0.pads = conversation1.pads ∧
      conversation0.received = conversation0.pads.rand0 ∧
      conversation1.received = conversation1.pads.rand1) := by
  intro hash publicKey sent h0 h1
  have samePoint : _ = sent := coupled_point coupled
  have shared0 : tape0.scalar.1 • publicKey = b • sent := coupled_shared0 coupled
  have shared1 : tape1.scalar.1 • publicKey = b • sent - b • publicKey := coupled_shared1 b _
  constructor
  · intro challenge opening
    have view0 := Receiver.view_eq key ⟨publicKey⟩ false tape0 challenge opening
    have view1 := Receiver.view_eq key ⟨publicKey⟩ true tape1 challenge opening
    simp only [shared0] at view0
    simp only [shared1] at view1
    refine ⟨_, _, view0, view1, ?_, rfl, ?_, ?_⟩
    · exact congrArg (fun point => PointMessage.mk (encodePoint point)) samePoint
    · intro honest
      constructor
      · exact congrArg ResponseMessage.mk ((response_eq_iff hash _ _ _).mpr honest)
      · exact opens_both_choices honest
    -- Acceptance on both sides would give away both hashes, and so the honest challenge.
    · intro forged
      constructor
      · intro same
        exact forged ((response_eq_iff hash _ _ _).mp (congrArg ResponseMessage.response same))
      · intro both
        exact forged (challenge_eq_of_opens both.1 both.2)
  · intro notIdentity
    let setup : SenderSetup := ⟨b, publicKey, b • publicKey⟩
    have consistent : setup.Consistent := ⟨rfl, rfl⟩
    let values0 := exchange hash setup publicKey false tape0.scalar.1
    let values1 := exchange hash setup publicKey true tape1.scalar.1
    have samePads : values0.pads = values1.pads := congrArg (setup.padsFor hash) samePoint
    have same := Exchange.conversation_eq hash samePoint samePads
    have ends0 := converse_of_consistent key consistent false tape0
      fun identity => notIdentity (samePoint.symm.trans identity)
    have ends1 := converse_of_consistent key consistent true tape1 notIdentity
    refine ⟨values0.conversation hash, values1.conversation hash, ends0, ends1, ?_, ?_, ?_, ?_,
      samePads, Exchange.received_eq_pick hash false consistent _,
      Exchange.received_eq_pick hash true consistent _⟩
    all_goals rw [same]

/-- The secret three, with the receiver's scalars five and eight. -/
theorem choice_private_at_three :
    let b : Scalar := 3
    let publicKey := b • Point.generator
    let tape0 := Tape.ofBytes (encodeScalar 8).bytes
    let tape1 := Tape.ofBytes (encodeScalar 5).bytes
    let setup : SenderSetup := ⟨b, publicKey, b • publicKey⟩
    let nonce := (Octets.zero nonceBytes).bytes
    tape0.scalar.1 = tape1.scalar.1 + b ∧ ∃ conversation0 conversation1,
      converse nonce setup ⟨publicKey⟩ false tape0 = .ok conversation0 ∧
      converse nonce setup ⟨publicKey⟩ true tape1 = .ok conversation1 ∧
      conversation0.opening = conversation1.opening := by
  intro b publicKey tape0 tape1 setup nonce
  have drawn0 : tape0.scalar.1 = 8 := Tape.scalar_of_encoded 8
  have drawn1 : tape1.scalar.1 = 5 := Tape.scalar_of_encoded 5
  have coupled : tape0.scalar.1 = tape1.scalar.1 + b := by
    rw [drawn0, drawn1]
    decide
  have sent : tape1.scalar.1 • Point.generator + publicKey ≠ .identity := by
    rw [drawn1]
    decide +kernel
  obtain ⟨conversation0, conversation1, ends0, ends1, _, _, _, sameOpening, _⟩ :=
    (choice_private (Octets.zero nonceBytes) b coupled).2 sent
  exact ⟨coupled, conversation0, conversation1, ends0, ends1, sameOpening⟩

end ObliviousTransfer
