import ObliviousTransfer.Proofs.Session.Rounds
import ObliviousTransfer.Proofs.Session.Run

/-!
The sender's session under any calls in any order. A call outside of its phase
changes nothing, so the calls made so far tell the phase: the session waits for
a point until there is one, and then for an answer until there is one.
-/

namespace ObliviousTransfer

inductive SenderCall where
  | round1 (message : PointMessage)
  | round2 (message : ResponseMessage)

inductive SenderReply where
  | challenge (message : ChallengeMessage)
  | opening (message : OpeningMessage) (pads : PadPair)

namespace SenderReply

def phase : SenderReply → Phase
  | .challenge _ => .awaitingRound1
  | .opening _ _ => .awaitingRound2

def isChallenge : Except Failure SenderReply → Bool
  | .ok (.challenge _) => true
  | _ => false

def isOpening : Except Failure SenderReply → Bool
  | .ok (.opening _ _) => true
  | _ => false

theorem is_challenge_phase : ∀ result, isChallenge result = true →
    ∃ reply, result = .ok reply ∧ phase reply = .awaitingRound1
  | .ok (.challenge message), _ => ⟨.challenge message, rfl, rfl⟩

theorem is_opening_phase : ∀ result, isOpening result = true →
    ∃ reply, result = .ok reply ∧ phase reply = .awaitingRound2
  | .ok (.opening message pads), _ => ⟨.opening message pads, rfl, rfl⟩

end SenderReply

namespace SenderCall

def phase : SenderCall → Phase
  | .round1 _ => .awaitingRound1
  | .round2 _ => .awaitingRound2

def round : SenderCall → Round
  | .round1 _ => .sender1
  | .round2 _ => .sender2

def Absent (phase : Phase) (calls : List SenderCall) : Prop :=
  ∀ call ∈ calls, call.phase ≠ phase

/-- The first point of the calls is read, and nothing has been answered since. -/
def Committed (calls : List SenderCall) (point : Point) : Prop :=
  ∃ before message waiting, calls = before ++ .round1 message :: waiting ∧
    Absent .awaitingRound1 before ∧ decodePoint message.point.bytes = .ok point ∧
    Absent .awaitingRound2 waiting

theorem absent_done (calls : List SenderCall) : Absent .done calls := by
  intro call _
  cases call <;> exact Phase.noConfusion

/-- What has become of the calls made so far. -/
inductive History (calls : List SenderCall) : Prop where
  | untouched (absent : Absent .awaitingRound1 calls)
  | refused {before later : List SenderCall} {message : PointMessage} {fault : EncodingFault}
      (split : calls = before ++ .round1 message :: later)
      (absent : Absent .awaitingRound1 before)
      (refused : decodePoint message.point.bytes = .error fault)
  | committed {point : Point} (committed : Committed calls point)
  | answered {before later : List SenderCall} {message : ResponseMessage} {point : Point}
      (split : calls = before ++ .round2 message :: later) (committed : Committed before point)

theorem history_append {calls : List SenderCall} (history : History calls) (call : SenderCall) :
    History (calls ++ [call]) := by
  cases history with
  | untouched absent =>
      cases call with
      | round1 message =>
          cases decoded : decodePoint message.point.bytes with
          | error fault => exact .refused rfl absent decoded
          | ok point =>
              exact .committed ⟨calls, message, [], rfl, absent, decoded, Run.absent_nil⟩
      | round2 message => exact .untouched (Run.absent_append absent Phase.noConfusion)
  | refused split absent refused =>
      rw [split, List.append_assoc]
      exact .refused rfl absent refused
  | committed committed =>
      cases call with
      | round1 message =>
          obtain ⟨before, first, waiting, split, absent, decoded, unanswered⟩ := committed
          rw [split, List.append_assoc]
          exact .committed ⟨before, first, _, rfl, absent, decoded,
            Run.absent_append unanswered Phase.noConfusion⟩
      | round2 message => exact .answered rfl committed
  | answered split committed =>
      rw [split, List.append_assoc]
      exact .answered rfl committed

theorem history_of_calls (calls : List SenderCall) : History calls := by
  -- On the last call, since it is the calls before it that fix the phase it meets.
  induction calls using List.reverseRecOn with
  | nil => exact .untouched Run.absent_nil
  | append_singleton calls call ih => exact history_append ih call

end SenderCall

namespace Sender

variable [KeyedHash]

def serve (sender : Sender) : SenderCall → Step Sender SenderReply
  | .round1 message => (sender.round1 message).map .challenge
  | .round2 message => (sender.round2 message).map fun (opening, pads) => .opening opening pads

theorem serve_outside {sender : Sender} {call : SenderCall}
    (outside : call.phase ≠ sender.phase) :
    sender.serve call = ⟨sender, .error (.unexpectedRound call.round sender.phase), []⟩ := by
  obtain ⟨setup, oracle, state⟩ := sender
  cases call with
  | round1 message =>
      cases state with
      | awaitingRound1 => exact absurd rfl outside
      | awaitingRound2 commitments => rfl
      | done => rfl
  | round2 message =>
      cases state with
      | awaitingRound1 => rfl
      | awaitingRound2 commitments => exact absurd rfl outside
      | done => rfl

theorem serve_advances {sender : Sender} {call : SenderCall} (inside : call.phase = sender.phase) :
    sender.phase.rank < (sender.serve call).session.phase.rank := by
  obtain ⟨setup, oracle, state⟩ := sender
  cases call with
  | round1 message =>
      cases state with
      | awaitingRound1 =>
          cases decoded : decodePoint message.point.bytes with
          | error fault =>
              simp only [serve, round1, decoded]
              exact Nat.zero_lt_succ 2
          | ok point =>
              simp only [serve, round1, decoded]
              exact Nat.zero_lt_succ 0
      | awaitingRound2 commitments => cases inside
      | done => cases inside
  | round2 message =>
      cases state with
      | awaitingRound1 => cases inside
      | awaitingRound2 commitments =>
          by_cases expected : message.response = commitments.expected
          · simp only [serve, round2, if_pos expected]
            exact Nat.succ_lt_succ (Nat.zero_lt_succ 1)
          · simp only [serve, round2, if_neg expected]
            exact Nat.succ_lt_succ (Nat.zero_lt_succ 1)
      | done => cases inside

theorem serve_phased : Run.Phased serve SenderCall.phase phase where
  outside := by
    intro sender call outside
    rw [serve_outside outside]
    exact ⟨rfl, fun _ same => nomatch same⟩
  advances := serve_advances

theorem after_done {sender : Sender} (done : sender.phase = .done) (calls : List SenderCall) :
    Run.after serve sender calls = sender := by
  apply serve_phased.after_absent
  rw [done]
  exact SenderCall.absent_done calls

theorem reply_phase {sender : Sender} {call : SenderCall} {reply : SenderReply}
    (given : (sender.serve call).result = .ok reply) : reply.phase = call.phase := by
  cases call with
  | round1 message =>
      rw [serve, Step.map] at given
      cases result : (sender.round1 message).result <;> rw [result] at given <;> cases given
      rfl
  | round2 message =>
      rw [serve, Step.map] at given
      cases result : (sender.round2 message).result <;> rw [result] at given <;> cases given
      rfl

theorem reply_belongs {wanted : Except Failure SenderReply → Bool} {awaited : Phase}
    (kind : ∀ result, wanted result = true → ∃ reply, result = .ok reply ∧ reply.phase = awaited)
    (sender : Sender) (call : SenderCall) (given : wanted (sender.serve call).result = true) :
    call.phase = awaited ∧ ∃ reply, (sender.serve call).result = .ok reply := by
  obtain ⟨reply, result, inPhase⟩ := kind _ given
  exact ⟨(reply_phase result).symm.trans inPhase, reply, result⟩

section Fresh

variable (key : Octets nonceBytes) (setup : SenderSetup)

theorem serve_refused {message : PointMessage} {fault : EncodingFault}
    (refused : decodePoint message.point.bytes = .error fault) :
    (under key setup .awaitingRound1).serve (.round1 message) =
      ⟨under key setup .done, .error (.encoding fault), []⟩ := by
  rw [serve, round1_of_refused key setup refused]
  rfl

theorem serve_decoded {message : PointMessage} {point : Point}
    (decoded : decodePoint message.point.bytes = .ok point) :
    let commitments := Commitments.ofPoint (KeyedHash.hash key) setup point
    (under key setup .awaitingRound1).serve (.round1 message) =
      ⟨under key setup (.awaitingRound2 commitments), .ok (.challenge ⟨commitments.challenge⟩),
        [⟨[.round1], .roundCompleted .sender1⟩]⟩ := by
  intro commitments
  rw [serve, round1_of_decoded key setup decoded]
  rfl

theorem serve_answer_session (commitments : Commitments) (message : ResponseMessage) :
    ((under key setup (.awaitingRound2 commitments)).serve (.round2 message)).session =
      under key setup .done :=
  round2_session key setup commitments message

theorem serve_answer_result (commitments : Commitments) (message : ResponseMessage) :
    ((under key setup (.awaitingRound2 commitments)).serve (.round2 message)).result =
      if message.response = commitments.expected then
        .ok (.opening commitments.opening commitments.pads)
      else .error .invalidResponse := by
  rw [serve, Step.map, round2_result]
  split <;> rfl

variable {calls : List SenderCall}

theorem after_untouched (absent : SenderCall.Absent .awaitingRound1 calls) :
    Run.after serve (under key setup .awaitingRound1) calls = under key setup .awaitingRound1 :=
  serve_phased.after_absent absent

theorem after_refused {message : PointMessage} {fault : EncodingFault}
    (absent : SenderCall.Absent .awaitingRound1 calls)
    (refused : decodePoint message.point.bytes = .error fault) (later : List SenderCall) :
    Run.after serve (under key setup .awaitingRound1) (calls ++ .round1 message :: later) =
      under key setup .done := by
  rw [Run.after_append, after_untouched key setup absent, Run.after,
    serve_refused key setup refused]
  exact after_done rfl later

/-- The commitments in the session are those of the one point that was read. -/
theorem after_committed {point : Point} (committed : SenderCall.Committed calls point) :
    Run.after serve (under key setup .awaitingRound1) calls =
      under key setup (.awaitingRound2 (Commitments.ofPoint (KeyedHash.hash key) setup point)) := by
  obtain ⟨before, message, waiting, split, absent, decoded, unanswered⟩ := committed
  rw [split, Run.after_append, after_untouched key setup absent, Run.after,
    serve_decoded key setup decoded]
  exact serve_phased.after_absent unanswered

theorem after_answered {point : Point} (committed : SenderCall.Committed calls point)
    (message : ResponseMessage) (later : List SenderCall) :
    Run.after serve (under key setup .awaitingRound1) (calls ++ .round2 message :: later) =
      under key setup .done := by
  rw [Run.after_append, after_committed key setup committed, Run.after, serve_answer_session]
  exact after_done rfl later

variable (calls) in
theorem phase_cases :
    let session := Run.after serve (under key setup .awaitingRound1) calls
    (session.phase = .awaitingRound1 ∧ SenderCall.Absent .awaitingRound1 calls) ∨
      (session.phase = .awaitingRound2 ∧ ∃ point, SenderCall.Committed calls point) ∨
        session.phase = .done := by
  cases SenderCall.history_of_calls calls with
  | untouched absent =>
      left
      exact ⟨congrArg Sender.phase (after_untouched key setup absent), absent⟩
  | refused split absent refused =>
      right
      right
      rw [split]
      exact congrArg Sender.phase (after_refused key setup absent refused _)
  | committed committed =>
      right
      left
      exact ⟨congrArg Sender.phase (after_committed key setup committed), _, committed⟩
  | answered split committed =>
      right
      right
      rw [split]
      exact congrArg Sender.phase (after_answered key setup committed _ _)

theorem untouched_iff :
    (Run.after serve (under key setup .awaitingRound1) calls).phase = .awaitingRound1 ↔
      SenderCall.Absent .awaitingRound1 calls := by
  constructor
  · intro waiting
    rcases phase_cases key setup calls with ⟨_, absent⟩ | ⟨other, _⟩ | other
    · exact absent
    · cases waiting.symm.trans other
    · cases waiting.symm.trans other
  · intro absent
    exact congrArg Sender.phase (after_untouched key setup absent)

theorem committed_iff :
    (Run.after serve (under key setup .awaitingRound1) calls).phase = .awaitingRound2 ↔
      ∃ point, SenderCall.Committed calls point := by
  constructor
  · intro waiting
    rcases phase_cases key setup calls with ⟨other, _⟩ | ⟨_, committed⟩ | other
    · cases waiting.symm.trans other
    · exact committed
    · cases waiting.symm.trans other
  · rintro ⟨point, committed⟩
    exact congrArg Sender.phase (after_committed key setup committed)

end Fresh

structure RunLaw (key : Octets nonceBytes) (setup : SenderSetup) (fresh : Sender) : Prop where
  outside : ∀ calls call, call.phase ≠ (Run.after serve fresh calls).phase →
    (Run.after serve fresh calls).serve call =
      ⟨Run.after serve fresh calls,
        .error (.unexpectedRound call.round (Run.after serve fresh calls).phase), []⟩
  awaits_point_iff : ∀ calls, (Run.after serve fresh calls).phase = .awaitingRound1 ↔
    SenderCall.Absent .awaitingRound1 calls
  awaits_answer_iff : ∀ calls, (Run.after serve fresh calls).phase = .awaitingRound2 ↔
    ∃ point, SenderCall.Committed calls point
  refuses : ∀ calls message fault, SenderCall.Absent .awaitingRound1 calls →
    decodePoint message.point.bytes = .error fault →
    ((Run.after serve fresh calls).serve (.round1 message)).result = .error (.encoding fault) ∧
      ∀ later, (Run.after serve fresh (calls ++ .round1 message :: later)).phase = .done
  commits : ∀ calls message point, SenderCall.Absent .awaitingRound1 calls →
    decodePoint message.point.bytes = .ok point →
    let hash := KeyedHash.hash key
    let pads := setup.padsFor hash point
    let decommit0 := hash pads.rand0.bytes
    let decommit1 := hash pads.rand1.bytes
    ((Run.after serve fresh calls).serve (.round1 message)).result =
      .ok (.challenge ⟨(hash decommit0.bytes).xor (hash decommit1.bytes)⟩)
  answers : ∀ calls message point, SenderCall.Committed calls point →
    let hash := KeyedHash.hash key
    let pads := setup.padsFor hash point
    let decommit0 := hash pads.rand0.bytes
    let decommit1 := hash pads.rand1.bytes
    ((Run.after serve fresh calls).serve (.round2 message)).result =
      (if message.response = hash decommit0.bytes then .ok (.opening ⟨decommit0, decommit1⟩ pads)
      else .error .invalidResponse) ∧
      ∀ later, (Run.after serve fresh (calls ++ .round2 message :: later)).phase = .done
  one_challenge : ∀ calls, (Run.results serve fresh calls).countP SenderReply.isChallenge ≤ 1
  one_opening : ∀ calls, (Run.results serve fresh calls).countP SenderReply.isOpening ≤ 1
  forward : ∀ calls later, (Run.after serve fresh calls).phase.rank ≤
    (Run.after serve fresh (calls ++ later)).phase.rank
  never_resumes : ∀ calls later, (Run.after serve fresh calls).phase = .done →
    Run.after serve fresh (calls ++ later) = Run.after serve fresh calls

end Sender

/-- A fresh session under any key obeys the law of runs. -/
theorem sender_run_law [KeyedHash] (key : Octets nonceBytes) (setup : SenderSetup) :
    ∃ fresh, Sender.start key.bytes setup = .ok fresh ∧ Sender.RunLaw key setup fresh := by
  refine ⟨Sender.under key setup .awaitingRound1, Sender.start_eq key setup, ?_⟩
  constructor
  case outside =>
    intro calls call outside
    exact Sender.serve_outside outside
  case awaits_point_iff =>
    intro calls
    exact Sender.untouched_iff key setup
  case awaits_answer_iff =>
    intro calls
    exact Sender.committed_iff key setup
  case refuses =>
    intro calls message fault absent refused
    constructor
    · rw [Sender.after_untouched key setup absent, Sender.serve_refused key setup refused]
    · intro later
      rw [Sender.after_refused key setup absent refused]
      rfl
  case commits =>
    intro calls message point absent decoded hash pads decommit0 decommit1
    rw [Sender.after_untouched key setup absent, Sender.serve_decoded key setup decoded,
      Octets.xor_comm]
    rfl
  case answers =>
    intro calls message point committed hash pads decommit0 decommit1
    constructor
    · rw [Sender.after_committed key setup committed, Sender.serve_answer_result]
      rfl
    · intro later
      rw [Sender.after_answered key setup committed]
      rfl
  case one_challenge =>
    intro calls
    exact Sender.serve_phased.wanted_le_one
      (Sender.reply_belongs SenderReply.is_challenge_phase) _ calls
  case one_opening =>
    intro calls
    exact Sender.serve_phased.wanted_le_one
      (Sender.reply_belongs SenderReply.is_opening_phase) _ calls
  case forward =>
    intro calls later
    rw [Run.after_append]
    exact Run.rank_le_after Sender.serve_phased.rank_le _ later
  case never_resumes =>
    intro calls later done
    rw [Run.after_append]
    exact Sender.after_done done later

end ObliviousTransfer
