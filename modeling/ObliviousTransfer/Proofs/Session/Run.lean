import ObliviousTransfer.Protocol.Action

/-!
Runs of a session: calls one after the other, whatever came of those before.
What one call preserves holds over every run, and a reply that can only be given
on the way past a certain rank is given once.
-/

namespace ObliviousTransfer

/-- The order in which a session goes through its phases. -/
def Phase.rank : Phase → Nat
  | .awaitingRound1 => 0
  | .awaitingRound2 => 1
  | .awaitingRound3 => 2
  | .done => 3

def Step.map {Session Value Next : Type} (step : Step Session Value) (change : Value → Next) :
    Step Session Next :=
  ⟨step.session, step.result.map change, step.events⟩

namespace Run

variable {Session Call Reply : Type} (serve : Session → Call → Step Session Reply)

def after : Session → List Call → Session
  | session, [] => session
  | session, call :: later => after (serve session call).session later

def results : Session → List Call → List (Except Failure Reply)
  | _, [] => []
  | session, call :: later =>
      (serve session call).result :: results (serve session call).session later

variable {serve}

theorem after_append (session : Session) (before later : List Call) :
    after serve session (before ++ later) = after serve (after serve session before) later := by
  induction before generalizing session with
  | nil => rfl
  | cons call before ih => exact ih _

theorem after_of_unmoved {session : Session} {calls : List Call}
    (unmoved : ∀ call ∈ calls, (serve session call).session = session) :
    after serve session calls = session := by
  induction calls with
  | nil => rfl
  | cons call later ih =>
      rw [after, unmoved call List.mem_cons_self]
      exact ih fun other member => unmoved other (List.mem_cons_of_mem call member)

section Rank

variable {rank : Session → Nat}
  (forward : ∀ session call, rank session ≤ rank (serve session call).session)
include forward

theorem rank_le_after (session : Session) (calls : List Call) :
    rank session ≤ rank (after serve session calls) := by
  induction calls generalizing session with
  | nil => exact Nat.le_refl _
  | cons call later ih => exact Nat.le_trans (forward session call) (ih _)

variable {wanted : Except Failure Reply → Bool} {level : Nat}
  (passes : ∀ session call, wanted (serve session call).result = true →
    rank session ≤ level ∧ level < rank (serve session call).session)
include passes

theorem wanted_results_above {session : Session} (above : level < rank session)
    (calls : List Call) : (results serve session calls).countP wanted = 0 := by
  induction calls generalizing session with
  | nil => rfl
  | cons call later ih =>
      have refused : ¬wanted (serve session call).result = true := by
        intro given
        exact Nat.not_lt_of_le (passes session call given).1 above
      rw [results, List.countP_cons_of_neg refused]
      exact ih (Nat.lt_of_lt_of_le above (forward session call))

theorem wanted_results_le_one (session : Session) (calls : List Call) :
    (results serve session calls).countP wanted ≤ 1 := by
  induction calls generalizing session with
  | nil => exact Nat.zero_le 1
  | cons call later ih =>
      rw [results]
      by_cases given : wanted (serve session call).result = true
      -- The rank is past the level from here on, so no later result is a wanted one.
      · have above := (passes session call given).2
        have none := wanted_results_above forward passes above later
        rw [List.countP_cons_of_pos given]
        omega
      · rw [List.countP_cons_of_neg given]
        exact ih _

end Rank

section Phased

variable {callPhase : Call → Phase} {phase : Session → Phase} {awaited : Phase}

def Absent (callPhase : Call → Phase) (awaited : Phase) (calls : List Call) : Prop :=
  ∀ call ∈ calls, callPhase call ≠ awaited

theorem absent_nil : Absent callPhase awaited [] := fun _ member => nomatch member

theorem absent_append {calls : List Call} {call : Call} (absent : Absent callPhase awaited calls)
    (other : callPhase call ≠ awaited) : Absent callPhase awaited (calls ++ [call]) := by
  intro member memberOf
  rcases List.mem_append.mp memberOf with earlier | last
  · exact absent member earlier
  · rw [List.mem_singleton.mp last]
    exact other

/-- Calls belong to phases. One outside of its phase is refused and changes nothing, and one inside
of it is the last of that phase, whatever comes of it. -/
structure Phased (serve : Session → Call → Step Session Reply) (callPhase : Call → Phase)
    (phase : Session → Phase) : Prop where
  outside : ∀ {session call}, callPhase call ≠ phase session →
    (serve session call).session = session ∧
      ∀ reply, (serve session call).result ≠ .ok reply
  advances : ∀ {session call}, callPhase call = phase session →
    (phase session).rank < (phase (serve session call).session).rank

namespace Phased

variable (phased : Phased serve callPhase phase)
include phased

theorem rank_le (session : Session) (call : Call) :
    (phase session).rank ≤ (phase (serve session call).session).rank := by
  by_cases inside : callPhase call = phase session
  · exact Nat.le_of_lt (phased.advances inside)
  · have unmoved := (phased.outside inside).1
    exact Nat.le_of_eq (congrArg (fun session => (phase session).rank) unmoved.symm)

theorem after_absent {session : Session} {calls : List Call}
    (absent : Absent callPhase (phase session) calls) : after serve session calls = session :=
  after_of_unmoved fun call member => (phased.outside (absent call member)).1

theorem inside_of_reply {session : Session} {call : Call} {reply : Reply}
    (given : (serve session call).result = .ok reply) : callPhase call = phase session := by
  by_cases inside : callPhase call = phase session
  · exact inside
  · exact absurd given ((phased.outside inside).2 reply)

/-- A kind of reply that only calls of one phase get is given once. -/
theorem wanted_le_one {wanted : Except Failure Reply → Bool}
    (belongs : ∀ session call, wanted (serve session call).result = true →
      callPhase call = awaited ∧ ∃ reply, (serve session call).result = .ok reply)
    (session : Session) (calls : List Call) :
    (results serve session calls).countP wanted ≤ 1 := by
  have passes (session : Session) (call : Call)
      (given : wanted (serve session call).result = true) :
      (phase session).rank ≤ awaited.rank ∧
        awaited.rank < (phase (serve session call).session).rank := by
    obtain ⟨kind, reply, result⟩ := belongs session call given
    have inside := phased.inside_of_reply result
    rw [← kind, inside]
    exact ⟨Nat.le_refl _, phased.advances inside⟩
  exact wanted_results_le_one phased.rank_le passes session calls

end Phased

end Phased

end Run

end ObliviousTransfer
