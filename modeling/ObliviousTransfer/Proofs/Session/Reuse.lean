import ObliviousTransfer.Proofs.Oracle.Streaming
import ObliviousTransfer.Proofs.Session.Hashing
import ObliviousTransfer.Proofs.Session.ReceiverRun
import ObliviousTransfer.Proofs.Session.SenderRun

/-!
Sessions that take all their hashes from one state, which every hash changes. Since
a digest forgets what was fed before, such a session returns what it returns with a
hash that has no state, through any calls and from any used state.
-/

namespace ObliviousTransfer

namespace Hashing

variable {Value Next State : Type}

theorem run_and_then (answer : List Byte → Pad) (computation : Hashing Value)
    (next : Value → Hashing Next) :
    (computation >>= next).run answer = (next (computation.run answer)).run answer := by
  induction computation with
  | done value => rfl
  | ask query rest ih => exact ih _

/-- A run whose hashes are digests of one state, each from the state that the last one left. -/
def runOn (accumulator : Accumulator State) : Hashing Value → State → Value × State
  | .done value, state => (value, state)
  | .ask query next, state =>
      let (answer, fed) := accumulator.digest state query.input
      (next answer).runOn accumulator fed

theorem run_on_eq {accumulator : Accumulator State} {hash : List Byte → Pad}
    {Holds : State → List Byte → Prop} (follows : accumulator.Follows hash Holds)
    (computation : Hashing Value) {state : State} {bytes : List Byte} (holds : Holds state bytes) :
    (computation.runOn accumulator state).1 = computation.run hash ∧
      ∃ left, Holds (computation.runOn accumulator state).2 left := by
  induction computation generalizing state bytes with
  | done value => exact ⟨rfl, bytes, holds⟩
  | ask query next ih =>
      obtain ⟨answered, fed⟩ := follows.digest holds query.input
      rw [runOn, run, ← answered]
      exact ih _ fed

end Hashing

namespace Run

variable {Session Call Reply State : Type}

/-- A call of a session whose hashes are taken from a state beside it. -/
def serveOn (accumulator : Accumulator State)
    (serving : Session → Call → Hashing (Step Session Reply)) :
    Session × State → Call → Step (Session × State) Reply
  | (session, state), call =>
      let served := (serving session call).runOn accumulator state
      ⟨(served.1.session, served.2), served.1.result, served.1.events⟩

variable {accumulator : Accumulator State} {hash : List Byte → Pad}
  {Holds : State → List Byte → Prop} {serving : Session → Call → Hashing (Step Session Reply)}
  {serve : Session → Call → Step Session Reply} {Keyed : Session → Prop}

theorem results_on_eq (follows : accumulator.Follows hash Holds)
    (keeps : ∀ session call, Keyed session → Keyed (serve session call).session)
    (runs : ∀ session call, Keyed session → (serving session call).run hash = serve session call)
    {session : Session} {state : State} {bytes : List Byte} (keyed : Keyed session)
    (holds : Holds state bytes) (calls : List Call) :
    results (serveOn accumulator serving) (session, state) calls = results serve session calls := by
  induction calls generalizing session state bytes with
  | nil => rfl
  | cons call later ih =>
      obtain ⟨same, left, stillHolds⟩ := Hashing.run_on_eq follows (serving session call) holds
      rw [runs session call keyed] at same
      have stillKeyed := keeps session call keyed
      simp only [results, serveOn, same]
      exact congrArg _ (ih stillKeyed stillHolds)

end Run

namespace Sender

def serving (sender : Sender) : SenderCall → Hashing (Step Sender SenderReply)
  | .round1 message => do return (← sender.hashing1 message).map .challenge
  | .round2 message =>
      return (sender.round2 message).map fun (opening, pads) => .opening opening pads

variable [KeyedHash]

theorem run_serving (sender : Sender) (call : SenderCall) :
    (sender.serving call).run sender.oracle.hash = sender.serve call := by
  cases call with
  | round1 message =>
      rw [serving, Hashing.run_and_then, run_hashing1]
      rfl
  | round2 message => rfl

theorem serve_oracle (sender : Sender) (call : SenderCall) :
    (sender.serve call).session.oracle = sender.oracle := by
  obtain ⟨setup, oracle, state⟩ := sender
  cases call with
  | round1 message =>
      cases state with
      | awaitingRound1 =>
          cases decoded : decodePoint message.point.bytes <;> simp only [serve, round1, decoded] <;>
            rfl
      | awaitingRound2 commitments => rfl
      | done => rfl
  | round2 message =>
      cases state with
      | awaitingRound1 => rfl
      | awaitingRound2 commitments =>
          simp only [serve, round2, Step.map]
          split <;> rfl
      | done => rfl

end Sender

namespace Receiver

def taking (receiver : Receiver) (turn : ReceiverTurn) : Hashing (Step Receiver ReceiverReply) :=
  match turn.call with
  | .round1 => do return (← receiver.hashing1 turn.tape).1.map .point
  | .round2 message => do return (← receiver.hashing2 message).map .response
  | .round3 message => do return (← receiver.hashing3 message).map .pad

variable [KeyedHash]

theorem run_taking (receiver : Receiver) (turn : ReceiverTurn) :
    (receiver.taking turn).run receiver.oracle.hash = receiver.take turn := by
  obtain ⟨call, tape⟩ := turn
  cases call with
  | round1 =>
      rw [taking, Hashing.run_and_then, run_hashing1]
      rfl
  | round2 message =>
      rw [taking, Hashing.run_and_then, run_hashing2]
      rfl
  | round3 message =>
      rw [taking, Hashing.run_and_then, run_hashing3]
      rfl

theorem take_oracle (receiver : Receiver) (turn : ReceiverTurn) :
    (receiver.take turn).session.oracle = receiver.oracle := by
  obtain ⟨publicKey, oracle, choice, state⟩ := receiver
  obtain ⟨call, tape⟩ := turn
  cases call with
  | round1 => cases state <;> rfl
  | round2 message => cases state <;> rfl
  | round3 message =>
      cases state with
      | awaitingRound3 pad challenge hashed =>
          simp only [take, serve, round3, Step.map]
          split <;> rfl
      | _ => rfl

end Receiver

/-- A session under a nonce may take all its hashes from one incremental hash of that key, whatever
was fed to it before. -/
theorem sessions_on_one_hasher (nonce : Octets nonceBytes) {hasher : Blake3.Hasher}
    {bytes : List Byte} (used : hasher.Holds (Blake3.keyChain nonce) bytes) :
    (∀ setup sender calls, Sender.start nonce.bytes setup = .ok sender →
      Run.results (Run.serveOn Blake3.Hasher.accumulator Sender.serving) (sender, hasher) calls =
        Run.results Sender.serve sender calls) ∧
    ∀ setup choice receiver turns, Receiver.start nonce.bytes setup choice = .ok receiver →
      Run.results (Run.serveOn Blake3.Hasher.accumulator Receiver.taking) (receiver, hasher) turns =
        Run.results Receiver.take receiver turns := by
  have follows := Blake3.Hasher.follows_fed nonce
  constructor
  · intro setup sender calls started
    rw [Sender.start_eq] at started
    cases started
    have keeps (sender : Sender) (call : SenderCall) (keyed : sender.oracle = ⟨nonce, []⟩) :
        (sender.serve call).session.oracle = ⟨nonce, []⟩ :=
      (sender.serve_oracle call).trans keyed
    have runs (sender : Sender) (call : SenderCall) (keyed : sender.oracle = ⟨nonce, []⟩) :
        (sender.serving call).run (Blake3.keyedHash nonce) = sender.serve call := by
      rw [← sender.run_serving, keyed]
      rfl
    exact Run.results_on_eq follows keeps runs rfl used calls
  · intro setup choice receiver turns started
    rw [Receiver.start_eq] at started
    cases started
    have keeps (receiver : Receiver) (turn : ReceiverTurn)
        (keyed : receiver.oracle = ⟨nonce, []⟩) :
        (receiver.take turn).session.oracle = ⟨nonce, []⟩ :=
      (receiver.take_oracle turn).trans keyed
    have runs (receiver : Receiver) (turn : ReceiverTurn)
        (keyed : receiver.oracle = ⟨nonce, []⟩) :
        (receiver.taking turn).run (Blake3.keyedHash nonce) = receiver.take turn := by
      rw [← receiver.run_taking, keyed]
      rfl
    exact Run.results_on_eq follows keeps runs rfl used turns

end ObliviousTransfer
