import ObliviousTransfer.Proofs.Curve.Encoding
import ObliviousTransfer.Protocol.Execution

/-!
The values that an execution is about, by formulas of the group and a hash
alone: the point that is sent, the sender's pads and the receiver's. The checks
of both parties come down to one equation between these values.
-/

namespace ObliviousTransfer

/-- The hash of the hash of a pad, which is all that the rounds compare. -/
def hashTwice (hash : List Byte → Pad) (pad : Pad) : Pad := hash (hash pad.bytes).bytes

def responseTo (hash : List Byte → Pad) (choice : Bool) (pad challenge : Pad) : Pad :=
  if choice then (hashTwice hash pad).xor challenge else hashTwice hash pad

def SenderSetup.padsFor (hash : List Byte → Pad) (setup : SenderSetup) (point : Point) : PadPair :=
  let shared := setup.secret • point
  { rand0 := hash (encodePoint shared).bytes
    rand1 := hash (encodePoint (shared - setup.secretKey)).bytes }

structure SenderSetup.Consistent (setup : SenderSetup) : Prop where
  publicKey : setup.publicKey = setup.secret • Point.generator
  secretKey : setup.secretKey = setup.secret • setup.publicKey

theorem Receiver.opens_iff {hash : List Byte → Pad} {choice : Bool} {challenge hashed : Pad}
    {opening : OpeningMessage} :
    Receiver.opens hash choice challenge hashed opening = true ↔
      challenge = (hash opening.decommit0.bytes).xor (hash opening.decommit1.bytes) ∧
        (if choice then hash opening.decommit1.bytes else hash opening.decommit0.bytes) =
          hashed := by
  unfold Receiver.opens
  rw [Bool.and_eq_true, decide_eq_true_iff, decide_eq_true_iff]

structure Exchange where
  point : Point
  pads : PadPair
  received : Pad

def exchange (hash : List Byte → Pad) (setup : SenderSetup) (publicKey : Point) (choice : Bool)
    (a : Scalar) : Exchange :=
  let point := a • Point.generator + if choice then publicKey else 0
  { point
    pads := setup.padsFor hash point
    received := hash (encodePoint (a • publicKey)).bytes }

namespace Exchange

def commitments (hash : List Byte → Pad) (values : Exchange) : Commitments :=
  let decommit0 := hash values.pads.rand0.bytes
  let decommit1 := hash values.pads.rand1.bytes
  { pads := values.pads
    opening := ⟨decommit0, decommit1⟩
    expected := hash decommit0.bytes
    challenge := (hash decommit1.bytes).xor (hash decommit0.bytes) }

def Agrees (hash : List Byte → Pad) (values : Exchange) (choice : Bool) : Prop :=
  hashTwice hash values.received = hashTwice hash (values.pads.pick choice)

instance (hash : List Byte → Pad) (values : Exchange) (choice : Bool) :
    Decidable (values.Agrees hash choice) := inferInstanceAs (Decidable (_ = _))

variable (hash : List Byte → Pad) (values : Exchange) (choice : Bool)

theorem response_expected_iff :
    responseTo hash choice values.received (values.commitments hash).challenge =
      (values.commitments hash).expected ↔ values.Agrees hash choice := by
  cases choice with
  | false => exact Iff.rfl
  | true => exact Octets.xor_xor_eq_iff

theorem opens_of_agrees (agrees : values.Agrees hash choice) :
    Receiver.opens hash choice (values.commitments hash).challenge
      (hashTwice hash values.received) (values.commitments hash).opening = true := by
  rw [Receiver.opens_iff]
  constructor
  · exact Octets.xor_comm _ _
  · rw [agrees]
    cases choice <;> rfl

/-- Two ways to the first pad, `a • (b • G)` and `b • (a • G)`. -/
theorem shared_eq {setup : SenderSetup}
    (published : setup.publicKey = setup.secret • Point.generator) (a : Scalar) :
    a • setup.publicKey = setup.secret • (a • Point.generator + 0) := by
  simp only [published, Point.scalar_smul_eq]
  module

theorem received_eq_rand0 {setup : SenderSetup}
    (published : setup.publicKey = setup.secret • Point.generator) (a : Scalar) :
    (exchange hash setup setup.publicKey false a).received =
      (exchange hash setup setup.publicKey false a).pads.rand0 :=
  congrArg (fun point => hash (encodePoint point).bytes) (shared_eq published a)

/-- The second pad is that of the receiver just if the product in the setup is the right one. -/
theorem shared_eq_iff {setup : SenderSetup}
    (published : setup.publicKey = setup.secret • Point.generator) (a : Scalar) :
    a • setup.publicKey =
        setup.secret • (a • Point.generator + setup.publicKey) - setup.secretKey ↔
      setup.secretKey = setup.secret • setup.publicKey := by
  have expanded : setup.secret • (a • Point.generator + setup.publicKey) =
      a • setup.publicKey + setup.secret • setup.publicKey := by
    simp only [published, Point.scalar_smul_eq]
    module
  rw [expanded, eq_sub_iff_add_eq, add_right_inj]

theorem shared_eq_pick {setup : SenderSetup} (consistent : setup.Consistent) (a : Scalar) :
    let shared := setup.secret • (a • Point.generator + if choice then setup.publicKey else 0)
    a • setup.publicKey = if choice then shared - setup.secretKey else shared := by
  cases choice with
  | false => exact shared_eq consistent.publicKey a
  | true => exact (shared_eq_iff consistent.publicKey a).mpr consistent.secretKey

theorem received_eq_pick {setup : SenderSetup} (consistent : setup.Consistent) (a : Scalar) :
    (exchange hash setup setup.publicKey choice a).received =
      (exchange hash setup setup.publicKey choice a).pads.pick choice := by
  have shared := shared_eq_pick choice consistent a
  cases choice <;> exact congrArg (fun point => hash (encodePoint point).bytes) shared

theorem agrees_of_consistent {setup : SenderSetup} (consistent : setup.Consistent) (a : Scalar) :
    (exchange hash setup setup.publicKey choice a).Agrees hash choice :=
  congrArg (hashTwice hash) (received_eq_pick hash choice consistent a)

end Exchange

end ObliviousTransfer
