import ObliviousTransfer.Proofs.Session.Outcome
import ObliviousTransfer.Proofs.Session.Relay

/-!
A relay refines an execution: each round of it is the next part of the action
that runs the rounds, so both come to the same end, with the same events and
the same tape.
-/

namespace ObliviousTransfer

def Outcome.within {Value : Type} (span : Span) (outcome : Outcome Value) : Outcome Value :=
  { outcome with events := outcome.events.map (Event.within span) }

theorem Outcome.within_completed {Value : Type} (span : Span) (outcome : Outcome Value) :
    (outcome.within span).events.filterMap Event.completed? =
      outcome.events.filterMap Event.completed? := by
  rw [within, List.filterMap_map]
  rfl

namespace Relay

/-- How the execution ended, given what its rounds have returned: five rounds give the pads of both
sides, and a round that fails is the last. -/
def ending : List (Except Failure PartyReply) → Option (Except Failure (PadPair × Pad))
  | [.ok _, .ok _, .ok _, .ok (.sender (.opening _ pads)), .ok (.receiver (.pad pad))] =>
      some (.ok (pads, pad))
  | results =>
      match results.getLast? with
      | some (.error failure) => some (.error failure)
      | _ => none

def closing : Except Failure (PadPair × Pad) → List Event
  | .ok _ => [⟨[], .executionCompleted⟩]
  | .error _ => []

def outcome (relay : Relay) : Option (Outcome (PadPair × Pad)) :=
  (ending relay.results).map fun result =>
    { result, tape := relay.table.tape, events := relay.events ++ closing result }

theorem ending_of_failure (results : List (Except Failure PartyReply)) (failure : Failure) :
    ending (results ++ [.error failure]) = some (.error failure) := by
  unfold ending
  split
  · next replies =>
    have last := congrArg List.getLast? replies
    rw [List.getLast?_concat] at last
    cases last
  · rw [List.getLast?_concat]

theorem outcome_completed {relay : Relay} {last : Outcome (PadPair × Pad)}
    (ended : relay.outcome = some last) :
    last.events.filterMap Event.completed? = relay.events.filterMap Event.completed? := by
  rw [outcome] at ended
  obtain ⟨result, -, rfl⟩ := Option.map_eq_some_iff.mp ended
  rw [List.filterMap_append]
  cases result with
  | error failure => exact List.append_nil _
  | ok pads => exact List.append_nil _

/-- A relay that has gone through the rounds of an execution, with the same end. -/
structure Reflects (relay : Relay) (span : Span) (outcome : Outcome (PadPair × Pad)) :
    Prop where
  outcome_eq : relay.outcome.map (Outcome.within span) = some outcome
  tape_eq : relay.table.tape = outcome.tape
  completed_eq : relay.results.filterMap PartyReply.completed? =
    outcome.events.filterMap Event.completed?

def fresh (sender : Sender) (receiver : Receiver) (tape : Tape) : Relay :=
  ⟨⟨sender, receiver, tape⟩, some (.receiver .round1), [], []⟩

theorem start_eq (key : Octets nonceBytes) (senderSetup : SenderSetup)
    (receiverSetup : ReceiverSetup) (choice : Bool) (tape : Tape) :
    start key.bytes senderSetup receiverSetup choice tape =
      .ok (fresh (Sender.under key senderSetup .awaitingRound1)
        (Receiver.under key receiverSetup choice .awaitingRound1) tape) := by
  rw [start, Sender.start_eq, Receiver.start_eq]
  rfl

section Rounds

variable [KeyedHash]

/-- In the given number of rounds the relay comes to the end that an action gives. -/
structure Ends (rounds : Nat) (relay : Relay) (action : Action (PadPair × Pad)) : Prop where
  finished : (relay.play rounds).due = none
  outcome : (relay.play rounds).outcome =
    some { action relay.table.tape with
      events := relay.events ++ (action relay.table.tape).events }

/-- A round of the relay is the first part of an action, and the rounds after it are the rest. -/
theorem ends_of_step {Session Value Reply : Type} {table after : Table} {call : PartyCall}
    {step : Step Session Value} {action : Action (Session × Value)}
    {next : Session × Value → Action (PadPair × Pad)}
    {results : List (Except Failure PartyReply)} {events : List Event} {rounds : Nat}
    (reply : Value → Reply) (party : Reply → PartyReply)
    (served : table.serve call = ⟨after, (step.result.map reply).map party, step.events⟩)
    (ran : action table.tape = Action.ofStep step after.tape)
    (later : ∀ value, Ends rounds
      ⟨after, (party (reply value)).next?, results ++ [.ok (party (reply value))],
        events ++ step.events⟩ (next (step.session, value))) :
    Ends (rounds + 1) ⟨table, some call, results, events⟩ (action >>= next) := by
  obtain ⟨session, result, recorded⟩ := step
  cases result with
  | error failure =>
      have played : (Relay.mk table (some call) results events).play (rounds + 1) =
          ⟨after, none, results ++ [.error failure], events ++ recorded⟩ := by
        simp only [play, advance, perform, served]
        exact play_of_finished rfl rounds
      have acted : (action >>= next) table.tape = ⟨.error failure, after.tape, recorded⟩ := by
        change Action.andThen action next table.tape = _
        rw [Action.andThen, ran]
        rfl
      constructor
      · rw [played]
      · rw [played, acted, Relay.outcome, ending_of_failure]
        simp only [Option.map_some, closing, List.append_nil]
  | ok value =>
      have played : (Relay.mk table (some call) results events).play (rounds + 1) =
          (Relay.mk after (party (reply value)).next? (results ++ [.ok (party (reply value))])
            (events ++ recorded)).play rounds := by
        simp only [play, advance, perform, served]
        rfl
      have acted : (action >>= next) table.tape =
          { next (session, value) after.tape with
            events := recorded ++ (next (session, value) after.tape).events } := by
        change Action.andThen action next table.tape = _
        rw [Action.andThen, ran]
        rfl
      obtain ⟨finished, outcome⟩ := later value
      constructor
      · rw [played]
        exact finished
      · rw [played, acted, outcome, ← List.append_assoc]

theorem ends_of_sender {Value : Type} {sender : Sender} {receiver : Receiver} {tape : Tape}
    {call : SenderCall} {step : Step Sender Value} {reply : Value → SenderReply}
    {next : Sender × Value → Action (PadPair × Pad)}
    {results : List (Except Failure PartyReply)} {events : List Event} {rounds : Nat}
    (served : sender.serve call = step.map reply)
    (later : ∀ value, Ends rounds
      ⟨⟨step.session, receiver, tape⟩, (PartyReply.sender (reply value)).next?,
        results ++ [.ok (.sender (reply value))], events ++ step.events⟩
      (next (step.session, value))) :
    Ends (rounds + 1) ⟨⟨sender, receiver, tape⟩, some (.sender call), results, events⟩
      (Action.ofStep step >>= next) := by
  have moved : (Table.mk sender receiver tape).serve (.sender call) =
      ⟨⟨step.session, receiver, tape⟩, (step.result.map reply).map .sender, step.events⟩ := by
    rw [Table.serve, served]
    rfl
  exact ends_of_step reply PartyReply.sender moved rfl later

theorem ends_of_receiver {Value : Type} {sender : Sender} {receiver : Receiver}
    {tape rest : Tape} {call : ReceiverCall} {step : Step Receiver Value}
    {action : Action (Receiver × Value)} {reply : Value → ReceiverReply}
    {next : Receiver × Value → Action (PadPair × Pad)}
    {results : List (Except Failure PartyReply)} {events : List Event} {rounds : Nat}
    (served : receiver.serve tape call = (step.map reply, rest))
    (ran : action tape = Action.ofStep step rest)
    (later : ∀ value, Ends rounds
      ⟨⟨sender, step.session, rest⟩, (PartyReply.receiver (reply value)).next?,
        results ++ [.ok (.receiver (reply value))], events ++ step.events⟩
      (next (step.session, value))) :
    Ends (rounds + 1) ⟨⟨sender, receiver, tape⟩, some (.receiver call), results, events⟩
      (action >>= next) := by
  have moved : (Table.mk sender receiver tape).serve (.receiver call) =
      ⟨⟨sender, step.session, rest⟩, (step.result.map reply).map .receiver, step.events⟩ := by
    rw [Table.serve, served]
    rfl
  exact ends_of_step reply PartyReply.receiver moved ran later

end Rounds

end Relay

def conduct [KeyedHash] (sender : Sender) (receiver : Receiver) : Action (PadPair × Pad) := do
  let (receiver, point) ← receiver.send
  let (sender, challenge) ← Action.ofStep (sender.round1 point)
  let (receiver, response) ← Action.ofStep (receiver.round2 challenge)
  let (_, opening, pads) ← Action.ofStep (sender.round2 response)
  let (_, pad) ← Action.ofStep (receiver.round3 opening)
  Action.record .executionCompleted
  return (pads, pad)

section Execution

variable [KeyedHash]

theorem conduct_ends (sender : Sender) (receiver : Receiver) (tape : Tape) :
    (Relay.fresh sender receiver tape).Ends 5 (conduct sender receiver) := by
  rw [Relay.fresh, conduct]
  refine Relay.ends_of_receiver rfl rfl fun point => ?_
  refine Relay.ends_of_sender rfl fun challenge => ?_
  refine Relay.ends_of_receiver rfl rfl fun response => ?_
  refine Relay.ends_of_sender rfl fun (opening, pads) => ?_
  refine Relay.ends_of_receiver rfl rfl fun pad => ?_
  exact ⟨rfl, rfl⟩

theorem conduct_reflects (span : Span) (sender : Sender) (receiver : Receiver) (tape : Tape) :
    ((Relay.fresh sender receiver tape).play 5).Reflects span
      (Action.within span (conduct sender receiver) tape) := by
  have ended := (conduct_ends sender receiver tape).outcome
  constructor
  case outcome_eq =>
    rw [ended]
    rfl
  case tape_eq =>
    rw [Relay.outcome] at ended
    obtain ⟨result, -, same⟩ := Option.map_eq_some_iff.mp ended
    exact congrArg Outcome.tape same
  case completed_eq =>
    have accounted : (Relay.fresh sender receiver tape).Accounted := rfl
    rw [← Relay.accounted_play accounted 5, ← Relay.outcome_completed ended]
    exact (Outcome.within_completed span _).symm

variable (key : Octets nonceBytes) (senderSetup : SenderSetup) (receiverSetup : ReceiverSetup)
  (choice : Bool) (tape : Tape)

theorem execute_eq_conduct :
    execute key.bytes senderSetup receiverSetup choice =
      Action.within (.execute key.bytes) (conduct (Sender.under key senderSetup .awaitingRound1)
        (Receiver.under key receiverSetup choice .awaitingRound1)) := by
  rw [execute, Sender.start_eq, Receiver.start_eq]
  rfl

/-- Both sessions under any orderly moves keep in step with the rounds of an execution. Once these
have come to an end, after five deliveries at the latest, the end is that of the execution. -/
theorem relay_refines_execute (moves : List Move) :
    ∃ relay, Relay.start key.bytes senderSetup receiverSetup choice tape = .ok relay ∧
      (relay.Orderly moves →
        let reached := relay.run moves
        reached = relay.play (moves.countP Move.isDelivery) ∧
        (5 ≤ moves.countP Move.isDelivery → reached.due = none) ∧
        (reached.due = none → reached.Reflects (.execute key.bytes)
          (execute key.bytes senderSetup receiverSetup choice tape))) := by
  refine ⟨_, Relay.start_eq key senderSetup receiverSetup choice tape, ?_⟩
  rw [execute_eq_conduct]
  generalize Sender.under key senderSetup .awaitingRound1 = sender
  generalize Receiver.under key receiverSetup choice .awaitingRound1 = receiver
  intro orderly reached
  have kept : reached = Relay.play _ (moves.countP Move.isDelivery) := Relay.run_eq_play orderly
  have finished := (conduct_ends sender receiver tape).finished
  generalize moves.countP Move.isDelivery = rounds at kept ⊢
  refine ⟨kept, ?_, ?_⟩
  · intro enough
    rw [kept, ← Nat.add_sub_cancel' enough, Relay.play_add, Relay.play_of_finished finished]
    exact finished
  · intro ended
    rw [kept] at ended ⊢
    -- Playing on from either end changes nothing, so both are the same.
    rw [← Relay.play_of_finished ended 5, ← Relay.play_add, Nat.add_comm, Relay.play_add,
      Relay.play_of_finished finished]
    exact conduct_reflects (.execute key.bytes) sender receiver tape

end Execution

/-- Five deliveries in both forms, with three calls out of phase in between. -/
theorem relay_refines_execute_at_three :
    let secret : Scalar := 3
    let publicKey := secret • Point.generator
    let setup : SenderSetup := ⟨secret, publicKey, secret • publicKey⟩
    let key := Octets.zero nonceBytes
    let tape := Tape.ofBytes (encodeScalar 5).bytes
    let early : Move := .stray (.sender (.round2 ⟨Octets.zero padBytes⟩))
    let again : Move := .stray (.receiver .round1)
    let moves := [early, .deliver .bytes, again, .deliver (.text .pretty), again, .deliver .bytes,
      .deliver (.text .compact), .deliver .bytes]
    ∃ relay, Relay.start key.bytes setup ⟨publicKey⟩ true tape = .ok relay ∧
      relay.Orderly moves ∧ (relay.run moves).due = none ∧
      (relay.run moves).Reflects (.execute key.bytes)
        (execute key.bytes setup ⟨publicKey⟩ true tape) ∧
      ∃ kept, (execute key.bytes setup ⟨publicKey⟩ true tape).result = .ok kept := by
  intro secret publicKey setup key tape early again moves
  obtain ⟨relay, started, refines⟩ := relay_refines_execute key setup ⟨publicKey⟩ true tape moves
  have orderly : relay.Orderly moves := by
    rw [Relay.start_eq] at started
    cases started
    apply Relay.orderly_stray Phase.noConfusion
    apply Relay.orderly_deliver
    apply Relay.orderly_stray Phase.noConfusion
    apply Relay.orderly_deliver
    exact Relay.orderly_stray Phase.noConfusion trivial
  obtain ⟨-, finishes, reflects⟩ := refines orderly
  have finished := finishes (by decide)
  refine ⟨relay, started, orderly, finished, reflects finished, ?_⟩
  have notIdentity : tape.scalar.1 • Point.generator + publicKey ≠ .identity := by
    rw [show tape.scalar.1 = 5 from Tape.scalar_of_encoded 5]
    decide +kernel
  have consistent : setup.Consistent := ⟨rfl, rfl⟩
  rw [execute_result, converse_of_consistent key consistent true tape notIdentity]
  exact ⟨_, rfl⟩

end ObliviousTransfer
