import ObliviousTransfer.Proofs.Session.Rounds
import ObliviousTransfer.Proofs.Session.Run

/-!
The receiver's session under any calls in any order, each with a tape of its
own. The calls made so far tell the phase: the session waits for a first round,
then for a challenge, then for openings, and whatever comes of the openings it
is done. The pad is fixed by the scalar that the first round draws.
-/

namespace ObliviousTransfer

inductive ReceiverCall where
  | round1
  | round2 (message : ChallengeMessage)
  | round3 (message : OpeningMessage)

inductive ReceiverReply where
  | point (message : PointMessage)
  | response (message : ResponseMessage)
  | pad (pad : Pad)

namespace ReceiverReply

def isPad : Except Failure ReceiverReply → Bool
  | .ok (.pad _) => true
  | _ => false

end ReceiverReply

namespace ReceiverCall

def phase : ReceiverCall → Phase
  | .round1 => .awaitingRound1
  | .round2 _ => .awaitingRound2
  | .round3 _ => .awaitingRound3

def round : ReceiverCall → Round
  | .round1 => .receiver1
  | .round2 _ => .receiver2
  | .round3 _ => .receiver3

end ReceiverCall

structure ReceiverTurn where
  call : ReceiverCall
  tape : Tape

namespace ReceiverTurn

def phase (turn : ReceiverTurn) : Phase := turn.call.phase

def Absent (awaited : Phase) (turns : List ReceiverTurn) : Prop :=
  ∀ turn ∈ turns, turn.phase ≠ awaited

/-- The first round has drawn a scalar, and there has been no challenge since. -/
def Sent (turns : List ReceiverTurn) (a : Scalar) : Prop :=
  ∃ before tape waiting, turns = before ++ ⟨.round1, tape⟩ :: waiting ∧
    Absent .awaitingRound1 before ∧ tape.scalar.1 = a ∧ Absent .awaitingRound2 waiting

/-- The first challenge after the first round has been answered, and there have been no openings
since. -/
def Answered (turns : List ReceiverTurn) (a : Scalar) (challenge : Pad) : Prop :=
  ∃ before message tape waiting, turns = before ++ ⟨.round2 message, tape⟩ :: waiting ∧
    Sent before a ∧ message.challenge = challenge ∧ Absent .awaitingRound3 waiting

/-- What has become of the calls made so far, by the phase that they lead to. -/
inductive History : Phase → List ReceiverTurn → Prop where
  | untouched {turns : List ReceiverTurn} (absent : Absent .awaitingRound1 turns) :
      History .awaitingRound1 turns
  | sent {turns : List ReceiverTurn} {a : Scalar} (sent : Sent turns a) :
      History .awaitingRound2 turns
  | answered {turns : List ReceiverTurn} {a : Scalar} {challenge : Pad}
      (answered : Answered turns a challenge) : History .awaitingRound3 turns
  | closed {before later : List ReceiverTurn} {message : OpeningMessage} {tape : Tape}
      {a : Scalar} {challenge : Pad} (answered : Answered before a challenge) :
      History .done (before ++ ⟨.round3 message, tape⟩ :: later)

theorem sent_append {turns : List ReceiverTurn} {a : Scalar} {turn : ReceiverTurn}
    (sent : Sent turns a) (other : turn.phase ≠ .awaitingRound2) : Sent (turns ++ [turn]) a := by
  obtain ⟨before, tape, waiting, split, absent, drawn, unasked⟩ := sent
  rw [split, List.append_assoc]
  exact ⟨before, tape, _, rfl, absent, drawn, Run.absent_append unasked other⟩

theorem answered_append {turns : List ReceiverTurn} {a : Scalar} {challenge : Pad}
    {turn : ReceiverTurn} (answered : Answered turns a challenge)
    (other : turn.phase ≠ .awaitingRound3) : Answered (turns ++ [turn]) a challenge := by
  obtain ⟨before, message, tape, waiting, split, sent, asked, unopened⟩ := answered
  rw [split, List.append_assoc]
  exact ⟨before, message, tape, _, rfl, sent, asked, Run.absent_append unopened other⟩

/-- A call of the awaited phase moves the history on, and any other leaves it where it is. -/
theorem history_append {awaited : Phase} {turns : List ReceiverTurn}
    (history : History awaited turns) (turn : ReceiverTurn) :
    ∃ next, History next (turns ++ [turn]) := by
  obtain ⟨call, tape⟩ := turn
  cases history with
  | untouched absent =>
      cases call with
      | round1 => exact ⟨_, .sent ⟨turns, tape, [], rfl, absent, rfl, Run.absent_nil⟩⟩
      | round2 message => exact ⟨_, .untouched (Run.absent_append absent Phase.noConfusion)⟩
      | round3 message => exact ⟨_, .untouched (Run.absent_append absent Phase.noConfusion)⟩
  | sent sent =>
      cases call with
      | round1 => exact ⟨_, .sent (sent_append sent Phase.noConfusion)⟩
      | round2 message =>
          exact ⟨_, .answered ⟨turns, message, tape, [], rfl, sent, rfl, Run.absent_nil⟩⟩
      | round3 message => exact ⟨_, .sent (sent_append sent Phase.noConfusion)⟩
  | answered answered =>
      cases call with
      | round1 => exact ⟨_, .answered (answered_append answered Phase.noConfusion)⟩
      | round2 message => exact ⟨_, .answered (answered_append answered Phase.noConfusion)⟩
      | round3 message => exact ⟨_, .closed answered⟩
  | closed answered =>
      rw [List.append_assoc]
      exact ⟨_, .closed answered⟩

theorem history_of_turns (turns : List ReceiverTurn) : ∃ awaited, History awaited turns := by
  -- On the last call, since it is the calls before it that fix the phase it meets.
  induction turns using List.reverseRecOn with
  | nil => exact ⟨_, .untouched Run.absent_nil⟩
  | append_singleton turns turn ih =>
      obtain ⟨awaited, history⟩ := ih
      exact history_append history turn

end ReceiverTurn

namespace Receiver

variable [KeyedHash]

def serve (receiver : Receiver) (tape : Tape) :
    ReceiverCall → Step Receiver ReceiverReply × Tape
  | .round1 => ((receiver.round1 tape).1.map .point, (receiver.round1 tape).2)
  | .round2 message => ((receiver.round2 message).map .response, tape)
  | .round3 message => ((receiver.round3 message).map .pad, tape)

def take (receiver : Receiver) (turn : ReceiverTurn) : Step Receiver ReceiverReply :=
  (receiver.serve turn.tape turn.call).1

theorem serve_outside {receiver : Receiver} {call : ReceiverCall}
    (outside : call.phase ≠ receiver.phase) (tape : Tape) :
    receiver.serve tape call =
      (⟨receiver, .error (.unexpectedRound call.round receiver.phase), []⟩, tape) := by
  obtain ⟨publicKey, oracle, choice, state⟩ := receiver
  cases call with
  | round1 =>
      cases state with
      | awaitingRound1 => exact absurd rfl outside
      | awaitingRound2 pad => rfl
      | awaitingRound3 pad challenge hashed => rfl
      | done => rfl
  | round2 message =>
      cases state with
      | awaitingRound1 => rfl
      | awaitingRound2 pad => exact absurd rfl outside
      | awaitingRound3 pad challenge hashed => rfl
      | done => rfl
  | round3 message =>
      cases state with
      | awaitingRound1 => rfl
      | awaitingRound2 pad => rfl
      | awaitingRound3 pad challenge hashed => exact absurd rfl outside
      | done => rfl

section Fresh

variable (key : Octets nonceBytes) (setup : ReceiverSetup) (choice : Bool)

theorem serve_first (tape : Tape) :
    (under key setup choice .awaitingRound1).serve tape .round1 =
      let a := tape.scalar.1
      let pad := KeyedHash.hash key (encodePoint (a • setup.publicKey)).bytes
      (⟨under key setup choice (.awaitingRound2 pad),
        .ok (.point ⟨encodePoint (a • Point.generator + if choice then setup.publicKey else 0)⟩),
        [⟨[.round1], .roundCompleted .receiver1⟩]⟩, tape.scalar.2) := by
  rw [serve, round1_eq]
  rfl

theorem serve_challenge (pad : Pad) (tape : Tape) (message : ChallengeMessage) :
    (under key setup choice (.awaitingRound2 pad)).serve tape (.round2 message) =
      let hash := KeyedHash.hash key
      (⟨under key setup choice (.awaitingRound3 pad message.challenge (hashTwice hash pad)),
        .ok (.response ⟨responseTo hash choice pad message.challenge⟩),
        [⟨[.round2], .roundCompleted .receiver2⟩]⟩, tape) := by
  rw [serve, round2_eq]
  rfl

theorem serve_openings (pad challenge hashed : Pad) (tape : Tape) (message : OpeningMessage) :
    (under key setup choice (.awaitingRound3 pad challenge hashed)).serve tape (.round3 message) =
      (if opens (KeyedHash.hash key) choice challenge hashed message then
        ⟨under key setup choice .done, .ok (.pad pad), [⟨[.round3], .roundCompleted .receiver3⟩]⟩
      else ⟨under key setup choice .done, .error .decommitmentMismatch,
        [⟨[.round3], .openingRefused⟩]⟩, tape) := by
  rw [serve, Step.map, round3_eq]
  split <;> rfl

end Fresh

theorem take_advances {receiver : Receiver} {turn : ReceiverTurn}
    (inside : turn.phase = receiver.phase) :
    receiver.phase.rank < (receiver.take turn).session.phase.rank := by
  obtain ⟨publicKey, oracle, choice, state⟩ := receiver
  obtain ⟨call, tape⟩ := turn
  cases call with
  | round1 =>
      cases state with
      | awaitingRound1 => exact Nat.zero_lt_one
      | awaitingRound2 pad => cases inside
      | awaitingRound3 pad challenge hashed => cases inside
      | done => cases inside
  | round2 message =>
      cases state with
      | awaitingRound1 => cases inside
      | awaitingRound2 pad => exact Nat.lt_succ_self 1
      | awaitingRound3 pad challenge hashed => cases inside
      | done => cases inside
  | round3 message =>
      cases state with
      | awaitingRound1 => cases inside
      | awaitingRound2 pad => cases inside
      | awaitingRound3 pad challenge hashed =>
          by_cases opened : opens oracle.hash choice challenge hashed message = true
          · simp only [take, serve, Step.map, round3, if_pos opened]
            exact Nat.lt_succ_self 2
          · simp only [take, serve, Step.map, round3, if_neg opened]
            exact Nat.lt_succ_self 2
      | done => cases inside

theorem take_phased : Run.Phased take ReceiverTurn.phase phase where
  outside := by
    intro receiver turn outside
    rw [take, serve_outside outside]
    exact ⟨rfl, fun _ same => nomatch same⟩
  advances := take_advances

theorem after_done {receiver : Receiver} (done : receiver.phase = .done)
    (turns : List ReceiverTurn) : Run.after take receiver turns = receiver := by
  apply take_phased.after_absent
  rw [done]
  intro turn _
  obtain ⟨call, tape⟩ := turn
  cases call <;> exact Phase.noConfusion

theorem pad_belongs (receiver : Receiver) (turn : ReceiverTurn)
    (given : ReceiverReply.isPad (receiver.take turn).result = true) :
    turn.phase = .awaitingRound3 ∧ ∃ reply, (receiver.take turn).result = .ok reply := by
  obtain ⟨call, tape⟩ := turn
  cases call with
  | round1 =>
      rw [take, serve, Step.map] at given
      cases result : (receiver.round1 tape).1.result <;> rw [result] at given <;> cases given
  | round2 message =>
      rw [take, serve, Step.map] at given
      cases result : (receiver.round2 message).result <;> rw [result] at given <;> cases given
  | round3 message =>
      rw [take, serve, Step.map] at given ⊢
      cases result : (receiver.round3 message).result with
      | error failure =>
          rw [result] at given
          cases given
      | ok pad => exact ⟨rfl, .pad pad, rfl⟩

section Fresh

variable (key : Octets nonceBytes) (setup : ReceiverSetup) (choice : Bool)
  {turns : List ReceiverTurn}

def padOf (a : Scalar) : Pad := KeyedHash.hash key (encodePoint (a • setup.publicKey)).bytes

theorem after_untouched (absent : ReceiverTurn.Absent .awaitingRound1 turns) :
    Run.after take (under key setup choice .awaitingRound1) turns =
      under key setup choice .awaitingRound1 :=
  take_phased.after_absent absent

theorem after_sent {a : Scalar} (sent : ReceiverTurn.Sent turns a) :
    Run.after take (under key setup choice .awaitingRound1) turns =
      under key setup choice (.awaitingRound2 (padOf key setup a)) := by
  obtain ⟨before, tape, waiting, split, absent, drawn, unasked⟩ := sent
  rw [split, Run.after_append, after_untouched key setup choice absent, Run.after, take,
    serve_first, ← drawn]
  exact take_phased.after_absent unasked

theorem after_answered {a : Scalar} {challenge : Pad}
    (answered : ReceiverTurn.Answered turns a challenge) :
    Run.after take (under key setup choice .awaitingRound1) turns =
      under key setup choice (.awaitingRound3 (padOf key setup a) challenge
        (hashTwice (KeyedHash.hash key) (padOf key setup a))) := by
  obtain ⟨before, message, tape, waiting, split, sent, asked, unopened⟩ := answered
  rw [split, Run.after_append, after_sent key setup choice sent, Run.after, take,
    serve_challenge, ← asked]
  exact take_phased.after_absent unopened

theorem after_closed {a : Scalar} {challenge : Pad}
    (answered : ReceiverTurn.Answered turns a challenge) (message : OpeningMessage) (tape : Tape)
    (later : List ReceiverTurn) :
    Run.after take (under key setup choice .awaitingRound1)
      (turns ++ ⟨.round3 message, tape⟩ :: later) = under key setup choice .done := by
  have closed : (take (under key setup choice (.awaitingRound3 (padOf key setup a) challenge
      (hashTwice (KeyedHash.hash key) (padOf key setup a)))) ⟨.round3 message, tape⟩).session =
      under key setup choice .done := by
    rw [take, serve_openings]
    split <;> rfl
  rw [Run.after_append, after_answered key setup choice answered, Run.after, closed]
  exact after_done rfl later

theorem after_phase {awaited : Phase} (history : ReceiverTurn.History awaited turns) :
    (Run.after take (under key setup choice .awaitingRound1) turns).phase = awaited := by
  cases history with
  | untouched absent => exact congrArg phase (after_untouched key setup choice absent)
  | sent sent => exact congrArg phase (after_sent key setup choice sent)
  | answered answered => exact congrArg phase (after_answered key setup choice answered)
  | closed answered => exact congrArg phase (after_closed key setup choice answered _ _ _)

theorem phase_iff {awaited : Phase} :
    (Run.after take (under key setup choice .awaitingRound1) turns).phase = awaited ↔
      ReceiverTurn.History awaited turns := by
  constructor
  · intro reached
    obtain ⟨other, history⟩ := ReceiverTurn.history_of_turns turns
    rw [after_phase key setup choice history] at reached
    exact reached ▸ history
  · exact after_phase key setup choice

/-- Only the first round draws from the tape, and it does so only once. -/
theorem draws_iff (tape : Tape) (call : ReceiverCall) :
    tape.drawn < ((Run.after take (under key setup choice .awaitingRound1) turns).serve
        tape call).2.drawn ↔
      call = .round1 ∧ ReceiverTurn.Absent .awaitingRound1 turns := by
  constructor
  · intro draws
    cases call with
    | round1 =>
        by_cases first : (Run.after take (under key setup choice .awaitingRound1) turns).phase =
            .awaitingRound1
        · cases (phase_iff key setup choice).mp first with
          | untouched absent => exact ⟨rfl, absent⟩
        · rw [serve_outside (Ne.symm first)] at draws
          exact absurd draws (Nat.lt_irrefl _)
    | round2 message => exact absurd draws (Nat.lt_irrefl _)
    | round3 message => exact absurd draws (Nat.lt_irrefl _)
  · rintro ⟨rfl, absent⟩
    rw [after_untouched key setup choice absent, serve_first]
    exact tape.drawn_lt_scalar

theorem openings_result {a : Scalar} {challenge : Pad}
    (answered : ReceiverTurn.Answered turns a challenge) (tape : Tape) (message : OpeningMessage) :
    ((Run.after take (under key setup choice .awaitingRound1) turns).serve tape
        (.round3 message)).1.result =
      if opens (KeyedHash.hash key) choice challenge
          (hashTwice (KeyedHash.hash key) (padOf key setup a)) message then
        .ok (.pad (padOf key setup a))
      else .error .decommitmentMismatch := by
  rw [after_answered key setup choice answered, serve_openings]
  split <;> rfl

theorem pad_eq {turn : ReceiverTurn} {pad : Pad}
    (given : ((Run.after take (under key setup choice .awaitingRound1) turns).take turn).result =
      .ok (.pad pad)) :
    ∃ a challenge, ReceiverTurn.Answered turns a challenge ∧ pad = padOf key setup a := by
  have wanted := pad_belongs _ turn (congrArg ReceiverReply.isPad given)
  have inside := take_phased.inside_of_reply given
  rw [wanted.1] at inside
  obtain ⟨call, tape⟩ := turn
  cases call with
  | round1 => cases wanted.1
  | round2 message => cases wanted.1
  | round3 message =>
      cases (phase_iff key setup choice).mp inside.symm with
      | answered answered =>
          have result := openings_result key setup choice answered tape message
          rw [take] at given
          rw [given] at result
          split at result
          · cases result
            exact ⟨_, _, answered, rfl⟩
          · cases result

end Fresh

structure RunLaw (key : Octets nonceBytes) (setup : ReceiverSetup) (choice : Bool)
    (fresh : Receiver) : Prop where
  outside : ∀ turns tape call, call.phase ≠ (Run.after take fresh turns).phase →
    (Run.after take fresh turns).serve tape call =
      (⟨Run.after take fresh turns,
        .error (.unexpectedRound call.round (Run.after take fresh turns).phase), []⟩, tape)
  phase_iff : ∀ turns awaited,
    (Run.after take fresh turns).phase = awaited ↔ ReceiverTurn.History awaited turns
  sends : ∀ turns tape, ReceiverTurn.Absent .awaitingRound1 turns →
    let a := tape.scalar.1
    let sent := a • Point.generator + if choice then setup.publicKey else 0
    ((Run.after take fresh turns).serve tape .round1).1.result =
      .ok (.point ⟨encodePoint sent⟩) ∧
      ((Run.after take fresh turns).serve tape .round1).2 = tape.scalar.2
  draws_iff : ∀ turns tape call,
    tape.drawn < ((Run.after take fresh turns).serve tape call).2.drawn ↔
      call = .round1 ∧ ReceiverTurn.Absent .awaitingRound1 turns
  answers : ∀ turns tape message a, ReceiverTurn.Sent turns a →
    let hash := KeyedHash.hash key
    let pad := hash (encodePoint (a • setup.publicKey)).bytes
    ((Run.after take fresh turns).serve tape (.round2 message)).1.result =
      .ok (.response ⟨responseTo hash choice pad message.challenge⟩)
  opens : ∀ turns tape message a challenge, ReceiverTurn.Answered turns a challenge →
    let hash := KeyedHash.hash key
    let pad := hash (encodePoint (a • setup.publicKey)).bytes
    let hashed0 := hash message.decommit0.bytes
    let hashed1 := hash message.decommit1.bytes
    ((Run.after take fresh turns).serve tape (.round3 message)).1.result =
      (if hashed0.xor hashed1 = challenge ∧
          (if choice then hashed1 else hashed0) = hash (hash pad.bytes).bytes then .ok (.pad pad)
      else .error .decommitmentMismatch) ∧
      ∀ later, (Run.after take fresh (turns ++ ⟨.round3 message, tape⟩ :: later)).phase = .done
  one_pad : ∀ turns, (Run.results take fresh turns).countP ReceiverReply.isPad ≤ 1
  pad_eq : ∀ turns turn pad, ((Run.after take fresh turns).take turn).result = .ok (.pad pad) →
    ∃ a challenge, ReceiverTurn.Answered turns a challenge ∧
      pad = KeyedHash.hash key (encodePoint (a • setup.publicKey)).bytes
  forward : ∀ turns later, (Run.after take fresh turns).phase.rank ≤
    (Run.after take fresh (turns ++ later)).phase.rank
  never_resumes : ∀ turns later, (Run.after take fresh turns).phase = .done →
    Run.after take fresh (turns ++ later) = Run.after take fresh turns

end Receiver

/-- A fresh session under any key obeys the law of runs. -/
theorem receiver_run_law [KeyedHash] (key : Octets nonceBytes) (setup : ReceiverSetup)
    (choice : Bool) : ∃ fresh, Receiver.start key.bytes setup choice = .ok fresh ∧
      Receiver.RunLaw key setup choice fresh := by
  refine ⟨Receiver.under key setup choice .awaitingRound1, Receiver.start_eq key setup choice, ?_⟩
  constructor
  case outside =>
    intro turns tape call outside
    exact Receiver.serve_outside outside tape
  case phase_iff =>
    intro turns awaited
    exact Receiver.phase_iff key setup choice
  case sends =>
    intro turns tape absent a sent
    rw [Receiver.after_untouched key setup choice absent, Receiver.serve_first]
    exact ⟨rfl, rfl⟩
  case draws_iff =>
    intro turns tape call
    exact Receiver.draws_iff key setup choice tape call
  case answers =>
    intro turns tape message a sent hash pad
    rw [Receiver.after_sent key setup choice sent, Receiver.serve_challenge]
    rfl
  case opens =>
    intro turns tape message a challenge answered hash pad hashed0 hashed1
    constructor
    · rw [Receiver.openings_result key setup choice answered]
      simp only [Receiver.opens_iff, eq_comm (a := challenge)]
      rfl
    · intro later
      rw [Receiver.after_closed key setup choice answered]
      rfl
  case one_pad =>
    intro turns
    exact Receiver.take_phased.wanted_le_one Receiver.pad_belongs _ turns
  case pad_eq =>
    intro turns turn pad given
    exact Receiver.pad_eq key setup choice given
  case forward =>
    intro turns later
    rw [Run.after_append]
    exact Run.rank_le_after Receiver.take_phased.rank_le _ later
  case never_resumes =>
    intro turns later done
    rw [Run.after_append]
    exact Receiver.after_done done later

end ObliviousTransfer
