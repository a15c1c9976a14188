import ObliviousTransfer.Proofs.Knowledge.Verification

/-!
Two copies of a transcript, one with the party that proves and one with the
party that checks. Whatever both do with their copies, the copies stay the same,
up to the first proof whose nonce is zero: that one is refused without a trace.
-/

namespace ObliviousTransfer

namespace KeyProof

/-- What both parties do. For a proof the tape is where the prover's nonce comes from, and the
secret is the prover's alone. -/
inductive Move where
  | append (label message : List Byte)
  | challenge (label : List Byte) (length : Nat)
  | proof (secret : Scalar) (context : List Byte) (tape : Tape)

def Move.NonceNonzero : Move → Prop
  | .proof _ _ tape => tape.scalar.1 ≠ 0
  | _ => True

structure Copies where
  prover : Transcript
  verifier : Transcript

inductive Yield where
  | nothing
  | challenges (prover verifier : List Byte)
  | verdict (accepted : Bool)

def Yield.Agrees : Yield → Prop
  | .nothing => True
  | .challenges prover verifier => prover = verifier
  | .verdict accepted => accepted = true

structure Turn where
  yield : Yield
  copies : Copies

structure Turn.InStep (turn : Turn) : Prop where
  agrees : turn.yield.Agrees
  same : turn.copies.prover = turn.copies.verifier

def Copies.turn (copies : Copies) : Move → Turn
  | .append label message =>
      ⟨.nothing, copies.prover.append label message, copies.verifier.append label message⟩
  | .challenge label length =>
      let drawn := copies.prover.challenge label length
      let seen := copies.verifier.challenge label length
      ⟨.challenges drawn.1 seen.1, drawn.2, seen.2⟩
  | .proof secret context tape =>
      let publicKey := secret • Point.generator
      let made := (prove copies.prover publicKey secret context tape).1
      let checked := made.1.verify copies.verifier publicKey context
      ⟨.verdict checked.1, made.2, checked.2⟩

def Copies.turns : Copies → List Move → List Turn
  | _, [] => []
  | copies, move :: later => copies.turn move :: (copies.turn move).copies.turns later

theorem turns_length (copies : Copies) (moves : List Move) :
    (copies.turns moves).length = moves.length := by
  induction moves generalizing copies with
  | nil => rfl
  | cons move later ih => exact congrArg (· + 1) (ih _)

theorem turns_take (copies : Copies) (moves : List Move) (count : Nat) :
    (copies.turns moves).take count = copies.turns (moves.take count) := by
  induction moves generalizing copies count with
  | nil => simp [Copies.turns]
  | cons move later ih => cases count with
    | zero => rfl
    | succ count => exact congrArg (_ :: ·) (ih _ count)

theorem prove_fst (transcript : Transcript) (publicKey : Point) (secret : Scalar)
    (context : List Byte) (tape : Tape) :
    (prove transcript publicKey secret context tape).1 =
      proveWith tape.scalar.1 transcript publicKey secret context := rfl

theorem turn_in_step_iff (transcript : Transcript) (move : Move) :
    (Copies.turn ⟨transcript, transcript⟩ move).InStep ↔ move.NonceNonzero := by
  cases move with
  | append label message => exact ⟨fun _ => trivial, fun _ => ⟨trivial, rfl⟩⟩
  | challenge label length => exact ⟨fun _ => trivial, fun _ => ⟨rfl, rfl⟩⟩
  | proof secret context tape =>
      constructor
      · intro inStep zero
        have verdict : _ = true := inStep.agrees
        rw [prove_fst, verify_prove_fst] at verdict
        exact of_decide_eq_true verdict zero
      · intro nonzero
        have checked := verify_prove transcript context nonzero secret
        exact ⟨congrArg Prod.fst checked, (congrArg Prod.snd checked).symm⟩

theorem turns_in_step_iff (start : Transcript) (moves : List Move) :
    (∀ turn ∈ Copies.turns ⟨start, start⟩ moves, turn.InStep) ↔
      ∀ move ∈ moves, move.NonceNonzero := by
  induction moves generalizing start with
  | nil => simp [Copies.turns]
  | cons move later ih =>
      rw [Copies.turns, List.forall_mem_cons, List.forall_mem_cons, turn_in_step_iff]
      apply and_congr_right
      intro nonzero
      -- After a move in step there is one transcript again, from which the others start.
      have same := ((turn_in_step_iff start move).mpr nonzero).same
      generalize (Copies.turn ⟨start, start⟩ move).copies = copies at same
      obtain ⟨prover, verifier⟩ := copies
      cases same
      exact ih prover

theorem prove_transcript (transcript : Transcript) (publicKey : Point) (secret : Scalar)
    (context : List Byte) (tape : Tape) :
    let made := (prove transcript publicKey secret context tape).1
    made.2 = (challenge transcript publicKey made.1.commitment context).2 := rfl

/-- Some nonce gives any point as the commitment. -/
theorem exists_tape_for (transcript : Transcript) (publicKey : Point) (context : List Byte)
    (commitment : Point) :
    ∃ tape, ∀ secret, (prove transcript publicKey secret context tape).1.1.commitment =
      encodePoint commitment := by
  obtain ⟨k, multiple⟩ := commitment.exists_generator_smul
  refine ⟨Tape.ofBytes (encodeScalar k).bytes, ?_⟩
  intro secret
  rw [prove_fst, commitment_eq, Tape.scalar_of_encoded, multiple]

end KeyProof

open KeyProof

/-- Two copies of a transcript are in step just as long as no nonce is zero. In any state a proof
that cannot be read changes nothing, and every other moves the verifier's copy on as it moves the
copy of a prover with that commitment. -/
theorem transcripts_stay_in_step :
    (∀ start moves, (Copies.turns ⟨start, start⟩ moves).length = moves.length ∧
      ∀ count, (∀ turn ∈ (Copies.turns ⟨start, start⟩ moves).take count, turn.InStep) ↔
        ∀ move ∈ moves.take count, move.NonceNonzero) ∧
    (∀ proof transcript publicKey context, ¬Readable proof →
      proof.verify transcript publicKey context = (false, transcript)) ∧
    (∀ transcript publicKey secret context tape, tape.scalar.1 = 0 →
      ¬(prove transcript publicKey secret context tape).1.1.Readable) ∧
    (∀ transcript publicKey secret context tape,
      let made := (prove transcript publicKey secret context tape).1
      made.2 = (challenge transcript publicKey made.1.commitment context).2) ∧
    (∀ proof transcript publicKey context, Readable proof →
      let verified := (proof.verify transcript publicKey context).2
      verified = (challenge transcript publicKey proof.commitment context).2 ∧
        (∀ secret tape,
          let made := (prove transcript publicKey secret context tape).1
          made.1.commitment = proof.commitment → made.2 = verified) ∧
        ∀ point, proof.commitment = encodePoint point → ∃ tape, ∀ secret,
          (prove transcript publicKey secret context tape).1.1.commitment =
            proof.commitment) := by
  refine ⟨?_, ?_, ?_, prove_transcript, ?_⟩
  · intro start moves
    refine ⟨turns_length _ moves, ?_⟩
    intro count
    rw [turns_take]
    exact turns_in_step_iff start (moves.take count)
  · intro proof transcript publicKey context unreadable
    exact verify_of_unreadable transcript publicKey context unreadable
  · intro transcript publicKey secret context tape zero
    rw [prove_fst, zero]
    exact unreadable_of_zero transcript context publicKey secret
  · intro proof transcript publicKey context readable verified
    have moved : verified = (challenge transcript publicKey proof.commitment context).2 :=
      verify_transcript transcript publicKey context readable
    refine ⟨moved, ?_, ?_⟩
    · intro secret tape made sameCommitment
      rw [moved, ← sameCommitment]
      rfl
    · intro point written
      rw [written]
      exact exists_tape_for transcript publicKey context point

end ObliviousTransfer
