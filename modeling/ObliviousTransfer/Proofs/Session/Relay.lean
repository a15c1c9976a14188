import ObliviousTransfer.Proofs.Message.Wire
import ObliviousTransfer.Proofs.Session.Conversation
import ObliviousTransfer.Proofs.Session.ReceiverRun
import ObliviousTransfer.Proofs.Session.SenderRun

/-!
Both sessions driven call by call, with every message sent over a wire and any
calls out of phase in between. Such a run keeps in step with an execution: a
stray call changes nothing, and a message arrives as it was sent.
-/

namespace ObliviousTransfer

inductive PartyCall where
  | sender (call : SenderCall)
  | receiver (call : ReceiverCall)

inductive PartyReply where
  | sender (reply : SenderReply)
  | receiver (reply : ReceiverReply)

namespace PartyCall

def phase : PartyCall → Phase
  | .sender call => call.phase
  | .receiver call => call.phase

def round : PartyCall → Round
  | .sender call => call.round
  | .receiver call => call.round

def carry (carriage : Carriage) : PartyCall → Except Failure PartyCall
  | .receiver .round1 => .ok (.receiver .round1)
  | .sender (.round1 message) =>
      (PointMessage.wire.carry carriage message).map fun message => .sender (.round1 message)
  | .receiver (.round2 message) =>
      (ChallengeMessage.wire.carry carriage message).map fun message => .receiver (.round2 message)
  | .sender (.round2 message) =>
      (ResponseMessage.wire.carry carriage message).map fun message => .sender (.round2 message)
  | .receiver (.round3 message) =>
      (OpeningMessage.wire.carry carriage message).map fun message => .receiver (.round3 message)

theorem carry_eq (carriage : Carriage) (call : PartyCall) : call.carry carriage = .ok call := by
  cases call with
  | sender call =>
      cases call with
      | round1 message => rw [carry, Wire.carry_eq PointMessage.wire_lossless]; rfl
      | round2 message => rw [carry, Wire.carry_eq ResponseMessage.wire_lossless]; rfl
  | receiver call =>
      cases call with
      | round1 => rfl
      | round2 message => rw [carry, Wire.carry_eq ChallengeMessage.wire_lossless]; rfl
      | round3 message => rw [carry, Wire.carry_eq OpeningMessage.wire_lossless]; rfl

end PartyCall

def PartyReply.next? : PartyReply → Option PartyCall
  | .receiver (.point message) => some (.sender (.round1 message))
  | .sender (.challenge message) => some (.receiver (.round2 message))
  | .receiver (.response message) => some (.sender (.round2 message))
  | .sender (.opening message _) => some (.receiver (.round3 message))
  | .receiver (.pad _) => none

def PartyReply.round : PartyReply → Round
  | .receiver (.point _) => .receiver1
  | .sender (.challenge _) => .sender1
  | .receiver (.response _) => .receiver2
  | .sender (.opening _ _) => .sender2
  | .receiver (.pad _) => .receiver3

def PartyReply.completed? (result : Except Failure PartyReply) : Option Round :=
  result.toOption.map round

def Event.completed? (event : Event) : Option Round :=
  match event.notice with
  | .roundCompleted round => some round
  | _ => none

/-- Both sessions, and the tape that the receiver draws from. -/
structure Table where
  sender : Sender
  receiver : Receiver
  tape : Tape

namespace Table

def phaseFor (table : Table) : PartyCall → Phase
  | .sender _ => table.sender.phase
  | .receiver _ => table.receiver.phase

variable [KeyedHash]

def serve (table : Table) : PartyCall → Step Table PartyReply
  | .sender call =>
      let step := table.sender.serve call
      ⟨{ table with sender := step.session }, step.result.map .sender, step.events⟩
  | .receiver call =>
      let (step, rest) := table.receiver.serve table.tape call
      ⟨{ table with receiver := step.session, tape := rest }, step.result.map .receiver,
        step.events⟩

theorem serve_outside {table : Table} {call : PartyCall}
    (outside : call.phase ≠ table.phaseFor call) :
    table.serve call =
      ⟨table, .error (.unexpectedRound call.round (table.phaseFor call)), []⟩ := by
  cases call with
  | sender call =>
      rw [serve, Sender.serve_outside outside]
      rfl
  | receiver call =>
      rw [serve, Receiver.serve_outside outside]
      rfl

/-- A call records that its round is completed just if it succeeds. -/
theorem serve_completed (table : Table) (call : PartyCall) :
    (table.serve call).events.filterMap Event.completed? =
      [(table.serve call).result].filterMap PartyReply.completed? := by
  by_cases inside : call.phase = table.phaseFor call
  swap
  · rw [serve_outside inside]
    rfl
  obtain ⟨⟨setup, oracle, senderState⟩, ⟨publicKey, _, choice, receiverState⟩, tape⟩ := table
  cases call with
  | sender call =>
      cases call with
      | round1 message =>
          cases senderState with
          | awaitingRound1 =>
              simp only [serve, Sender.serve, Sender.round1]
              split <;> rfl
          | awaitingRound2 commitments => cases inside
          | done => cases inside
      | round2 message =>
          cases senderState with
          | awaitingRound1 => cases inside
          | awaitingRound2 commitments =>
              simp only [serve, Sender.serve, Sender.round2]
              split <;> rfl
          | done => cases inside
  | receiver call =>
      cases call with
      | round1 =>
          cases receiverState with
          | awaitingRound1 => rfl
          | awaitingRound2 pad => cases inside
          | awaitingRound3 pad challenge hashed => cases inside
          | done => cases inside
      | round2 message =>
          cases receiverState with
          | awaitingRound1 => cases inside
          | awaitingRound2 pad => rfl
          | awaitingRound3 pad challenge hashed => cases inside
          | done => cases inside
      | round3 message =>
          cases receiverState with
          | awaitingRound1 => cases inside
          | awaitingRound2 pad => cases inside
          | awaitingRound3 pad challenge hashed =>
              simp only [serve, Receiver.serve, Receiver.round3]
              split <;> rfl
          | done => cases inside

end Table

structure Relay where
  table : Table
  /-- The round that comes next, with the message that it takes. -/
  due : Option PartyCall
  /-- What the rounds of the execution have returned. -/
  results : List (Except Failure PartyReply)
  events : List Event

inductive Move where
  | deliver (carriage : Carriage)
  | stray (call : PartyCall)

def Move.isDelivery : Move → Bool
  | .deliver _ => true
  | .stray _ => false

namespace Relay

variable [KeyedHash]

def start (nonce : List Byte) (senderSetup : SenderSetup) (receiverSetup : ReceiverSetup)
    (choice : Bool) (tape : Tape) : Except Failure Relay := do
  let sender ← Sender.start nonce senderSetup
  let receiver ← Receiver.start nonce receiverSetup choice
  return ⟨⟨sender, receiver, tape⟩, some (.receiver .round1), [], []⟩

def perform (relay : Relay) (call : PartyCall) : Relay :=
  let step := relay.table.serve call
  { table := step.session
    due := step.result.toOption.bind PartyReply.next?
    results := relay.results ++ [step.result]
    events := relay.events ++ step.events }

def advance (relay : Relay) : Relay :=
  match relay.due with
  | none => relay
  | some call => relay.perform call

def deliver (relay : Relay) (carriage : Carriage) : Relay :=
  match relay.due with
  | none => relay
  | some call =>
      match call.carry carriage with
      | .ok call => relay.perform call
      | .error failure =>
          { relay with due := none, results := relay.results ++ [.error failure] }

/-- A call that is no part of the execution. -/
def interrupt (relay : Relay) (call : PartyCall) : Relay :=
  let step := relay.table.serve call
  { relay with table := step.session, events := relay.events ++ step.events }

def move (relay : Relay) : Move → Relay
  | .deliver carriage => relay.deliver carriage
  | .stray call => relay.interrupt call

def run (relay : Relay) : List Move → Relay
  | [] => relay
  | move :: later => (relay.move move).run later

/-- Every stray call of a run is out of phase for the party that it goes to. -/
def Orderly (relay : Relay) : List Move → Prop
  | [] => True
  | .deliver carriage :: later => (relay.deliver carriage).Orderly later
  | .stray call :: later =>
      call.phase ≠ relay.table.phaseFor call ∧ (relay.interrupt call).Orderly later

def play (relay : Relay) : Nat → Relay
  | 0 => relay
  | rounds + 1 => relay.advance.play rounds

theorem deliver_eq (relay : Relay) (carriage : Carriage) :
    relay.deliver carriage = relay.advance := by
  rw [deliver, advance]
  cases relay.due with
  | none => rfl
  | some call =>
      simp only [PartyCall.carry_eq]

theorem interrupt_eq {relay : Relay} {call : PartyCall}
    (outside : call.phase ≠ relay.table.phaseFor call) : relay.interrupt call = relay := by
  rw [interrupt, Table.serve_outside outside, List.append_nil]

theorem orderly_deliver {relay : Relay} {later : List Move} (carriage : Carriage)
    (orderly : relay.advance.Orderly later) : relay.Orderly (.deliver carriage :: later) := by
  rw [Orderly, deliver_eq]
  exact orderly

theorem orderly_stray {relay : Relay} {call : PartyCall} {later : List Move}
    (outside : call.phase ≠ relay.table.phaseFor call) (orderly : relay.Orderly later) :
    relay.Orderly (.stray call :: later) := by
  rw [Orderly, interrupt_eq outside]
  exact ⟨outside, orderly⟩

theorem run_eq_play {relay : Relay} {moves : List Move} (orderly : relay.Orderly moves) :
    relay.run moves = relay.play (moves.countP Move.isDelivery) := by
  induction moves generalizing relay with
  | nil => rfl
  | cons move later ih =>
      cases move with
      | deliver carriage =>
          rw [Orderly, deliver_eq] at orderly
          rw [run, Relay.move, deliver_eq, List.countP_cons_of_pos rfl, play]
          exact ih orderly
      | stray call =>
          obtain ⟨outside, orderly⟩ := orderly
          rw [interrupt_eq outside] at orderly
          rw [run, Relay.move, interrupt_eq outside, List.countP_cons_of_neg Bool.false_ne_true]
          exact ih orderly

theorem play_of_finished {relay : Relay} (finished : relay.due = none) (rounds : Nat) :
    relay.play rounds = relay := by
  induction rounds with
  | zero => rfl
  | succ rounds ih =>
      rw [play, advance, finished]
      exact ih

theorem play_add (relay : Relay) (before later : Nat) :
    relay.play (before + later) = (relay.play before).play later := by
  induction before generalizing relay with
  | zero => rw [Nat.zero_add]; rfl
  | succ before ih => rw [Nat.succ_add, play, play, ih]

/-- The rounds recorded as completed are those that have returned a reply. -/
def Accounted (relay : Relay) : Prop :=
  relay.events.filterMap Event.completed? = relay.results.filterMap PartyReply.completed?

theorem accounted_perform {relay : Relay} (accounted : relay.Accounted) (call : PartyCall) :
    (relay.perform call).Accounted := by
  rw [Accounted, perform, List.filterMap_append, List.filterMap_append, accounted,
    Table.serve_completed]

theorem accounted_play {relay : Relay} (accounted : relay.Accounted) (rounds : Nat) :
    (relay.play rounds).Accounted := by
  induction rounds generalizing relay with
  | zero => exact accounted
  | succ rounds ih =>
      rw [play, advance]
      cases relay.due with
      | none => exact ih accounted
      | some call => exact ih (accounted_perform accounted call)

end Relay

end ObliviousTransfer
