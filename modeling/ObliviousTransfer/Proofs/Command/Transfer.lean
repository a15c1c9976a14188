import ObliviousTransfer.Proofs.Command.FileSystem
import ObliviousTransfer.Proofs.Curve.Encoding

/-!
What a transfer prints. It loads two setups that have to share their key, goes
through all executions, and only then prints them in order; each of those has
passed the comparison of the pads. Whatever fails, nothing is printed, and the
files are never touched.
-/

namespace ObliviousTransfer.Command

variable {State Value : Type}

namespace FileSystem

variable (system : FileSystem State) (format : Json.Format FieldFault Value) (state : State)

def Holds (path : String) (value : Value) : Prop :=
  ∃ text, system.readFile state path = .ok text ∧ Json.load format text = .ok value

def load (path : String) : Except CommandFault Value :=
  match system.readFile state path with
  | .error fault => .error (.unreadableFile path fault)
  | .ok text => (format.decode text.toList).mapError .unreadableText

variable {system format state}

theorem load_ok_iff {path : String} {value : Value} :
    system.load format state path = .ok value ↔ system.Holds format state path value := by
  unfold load Holds Json.load
  cases read : system.readFile state path with
  | error fault => simp
  | ok text => simp [except_map_error_ok_iff]

theorem Holds.unique {path : String} {left right : Value}
    (holdsLeft : system.Holds format state path left)
    (holdsRight : system.Holds format state path right) : left = right := by
  obtain ⟨text, read, loaded⟩ := holdsLeft
  obtain ⟨other, otherRead, otherLoaded⟩ := holdsRight
  cases read.symm.trans otherRead
  cases loaded.symm.trans otherLoaded
  rfl

theorem carry_out_load_then {path : String} (next : Value → Plan Lines) (tapes : Nat → Tape)
    (used : Nat) :
    (loadThen format path next).carryOut system tapes used state =
      match system.load format state path with
      | .error fault => (.error fault, state)
      | .ok value => (next value).carryOut system tapes used state := by
  rw [loadThen, Plan.carryOut, load]
  cases system.readFile state path with
  | error fault => rfl
  | ok text =>
      cases decoded : format.decode text.toList with
      | error fault => simp [decoded, Except.mapError, Plan.carryOut]
      | ok value => simp [decoded, Except.mapError]

end FileSystem

def executionsFrom (run : Tape → Except CommandFault Execution) (tapes : Nat → Tape) :
    Nat → Nat → Except CommandFault (List Execution)
  | 0, _ => .ok []
  | count + 1, used =>
      match run (tapes used) with
      | .error fault => .error fault
      | .ok execution => (executionsFrom run tapes count (used + 1)).map (execution :: ·)

def blocksFrom (index : Nat) (executions : List Execution) : List (List String) :=
  executions.mapIdx fun place execution => execution.lines (index + place)

theorem blocks_from_cons (index : Nat) (execution : Execution) (executions : List Execution) :
    blocksFrom index (execution :: executions) =
      execution.lines index :: blocksFrom (index + 1) executions := by
  simp [blocksFrom, List.mapIdx_cons, Nat.add_comm, Nat.add_left_comm]

section Executions

variable {run : Tape → Except CommandFault Execution} {tapes : Nat → Tape}

theorem executions_from_succ_iff {count used : Nat} {executions : List Execution} :
    executionsFrom run tapes (count + 1) used = .ok executions ↔
      ∃ execution others, executions = execution :: others ∧ run (tapes used) = .ok execution ∧
        executionsFrom run tapes count (used + 1) = .ok others := by
  rw [executionsFrom]
  cases run (tapes used) with
  | error fault => simp
  | ok execution =>
      cases executionsFrom run tapes count (used + 1) with
      | error fault => simp [Except.map]
      | ok others => simp [Except.map, eq_comm]

theorem executions_from_ok_iff {count used : Nat} {executions : List Execution} :
    executionsFrom run tapes count used = .ok executions ↔
      executions.length = count ∧ ∀ index execution, executions[index]? = some execution →
        run (tapes (used + index)) = .ok execution := by
  induction count generalizing used executions with
  | zero => cases executions <;> simp [executionsFrom]
  | succ count ih =>
      rw [executions_from_succ_iff]
      constructor
      · rintro ⟨first, others, rfl, ran, rest⟩
        obtain ⟨length, each⟩ := ih.mp rest
        refine ⟨congrArg (· + 1) length, fun index execution found => ?_⟩
        cases index with
        | zero =>
            cases found
            exact ran
        | succ index =>
            rw [← Nat.add_assoc, Nat.add_right_comm]
            exact each index execution found
      · rintro ⟨length, each⟩
        cases executions with
        | nil => cases length
        | cons first others =>
            refine ⟨first, others, rfl, each 0 first rfl, ih.mpr ⟨Nat.succ.inj length, ?_⟩⟩
            intro index execution found
            rw [Nat.add_right_comm, Nat.add_assoc]
            exact each (index + 1) execution found

theorem executions_from_succeeds_iff {count used : Nat} :
    (∃ executions, executionsFrom run tapes count used = .ok executions) ↔
      ∀ index < count, ∃ execution, run (tapes (used + index)) = .ok execution := by
  induction count generalizing used with
  | zero => simp [executionsFrom]
  | succ count ih =>
      rw [Nat.forall_lt_succ_left]
      constructor
      · rintro ⟨_, collected⟩
        obtain ⟨first, others, -, ran, rest⟩ := executions_from_succ_iff.mp collected
        refine ⟨⟨first, ran⟩, fun index bound => ?_⟩
        rw [← Nat.add_assoc, Nat.add_right_comm]
        exact ih.mp ⟨others, rest⟩ index bound
      · rintro ⟨⟨first, ran⟩, each⟩
        have following : ∀ index < count, ∃ execution,
            run (tapes (used + 1 + index)) = .ok execution := by
          intro index bound
          rw [Nat.add_right_comm, Nat.add_assoc]
          exact each index bound
        obtain ⟨others, rest⟩ := ih.mpr following
        exact ⟨_, executions_from_succ_iff.mpr ⟨first, others, rfl, ran, rest⟩⟩

/-- The lines are handed on through the whole repetition, and come out only at its end. -/
theorem carry_out_repeat_execution (system : FileSystem State) (state : State)
    (count index used : Nat) (lines : List String) :
    (repeatExecution run count index lines).carryOut system tapes used state =
      ((executionsFrom run tapes count used).map fun executions =>
        lines ++ (blocksFrom index executions).flatten, state) := by
  -- The number of the next execution and the lines so far move on together.
  induction count generalizing index used lines with
  | zero => simp [repeatExecution, Plan.carryOut, executionsFrom, blocksFrom, Except.map]
  | succ count ih =>
      rw [repeatExecution, Plan.carryOut, executionsFrom]
      cases run (tapes used) with
      | error fault => rfl
      | ok execution =>
          refine (ih (index + 1) (used + 1) _).trans ?_
          cases executionsFrom run tapes count (used + 1) with
          | error fault => rfl
          | ok others => simp [Except.map, blocks_from_cons]

end Executions

def drawChoice (rule : ChoiceRule) (tape : Tape) : Bool × Tape :=
  rule.draw (tape.octets nonceBytes).2

theorem run_one_ok_iff [KeyedHash] {sender : SenderSetup} {receiver : ReceiverSetup}
    {rule : ChoiceRule} {tape : Tape} {execution : Execution} :
    runOne sender receiver rule tape = .ok execution ↔
      execution.nonce = (tape.octets nonceBytes).1 ∧
        execution.choice = (drawChoice rule tape).1 ∧
        (execute execution.nonce.bytes sender receiver execution.choice
          (drawChoice rule tape).2).result = .ok (execution.pads, execution.received) ∧
        execution.received = execution.pads.pick execution.choice := by
  obtain ⟨nonce, choice, received, pads⟩ := execution
  constructor
  · intro ran
    unfold runOne at ran
    dsimp only at ran
    split at ran
    · cases ran
    case h_2 result =>
      split at ran
      case isTrue chosen =>
        cases ran
        exact ⟨rfl, rfl, result, chosen⟩
      case isFalse => cases ran
  · rintro ⟨rfl, rfl, result, chosen⟩
    dsimp only [drawChoice] at result chosen ⊢
    unfold runOne
    dsimp only
    rw [result]
    exact if_pos chosen

theorem exit_of_lines_iff {lines : Lines} :
    (Report.ofLines lines).exit = 0 ↔ ∃ printed, lines = .ok printed := by
  cases lines with
  | ok printed => exact iff_of_true rfl ⟨printed, rfl⟩
  | error fault =>
      have failed : (Report.ofLines (.error fault)).exit = 1 := rfl
      rw [failed]
      exact iff_of_false (by decide) (fun ⟨_, same⟩ => nomatch same)

section Transfers

variable [KeyedHash] (system : FileSystem State) (state : State) (destination : String)
  (count : Nat) (rule : ChoiceRule) (tapes : Nat → Tape)

/-- Both files of a transfer can be read, and belong together. -/
structure HoldsSetups (sender : SenderSetup) (receiver : ReceiverSetup) : Prop where
  sender_held : system.Holds SenderSetup.format state (senderFile destination) sender
  receiver_held : system.Holds ReceiverSetup.format state (receiverFile destination) receiver
  same_key : sender.publicKey = receiver.publicKey

def transferLines : Lines :=
  match system.load SenderSetup.format state (senderFile destination) with
  | .error fault => .error fault
  | .ok sender =>
      match system.load ReceiverSetup.format state (receiverFile destination) with
      | .error fault => .error fault
      | .ok receiver =>
          if sender.publicKey = receiver.publicKey then
            (executionsFrom (runOne sender receiver rule) tapes count 0).map fun executions =>
              (blocksFrom 0 executions).flatten
          else .error .unrelatedSetups

theorem perform_transfer :
    Call.perform system ⟨destination, .transfer count rule, tapes⟩ state =
      (.ofLines (transferLines system state destination count rule tapes), state) := by
  have carried : (transferPlan destination count rule).carryOut system tapes 0 state =
      (transferLines system state destination count rule tapes, state) := by
    rw [transferPlan, FileSystem.carry_out_load_then, transferLines]
    cases system.load SenderSetup.format state (senderFile destination) with
    | error fault => rfl
    | ok sender =>
        dsimp only
        rw [FileSystem.carry_out_load_then]
        cases system.load ReceiverSetup.format state (receiverFile destination) with
        | error fault => rfl
        | ok receiver =>
            dsimp only
            split_ifs
            · exact carry_out_repeat_execution system state count 0 0 []
            · rfl
  rw [Call.perform_eq, plan, carried]

variable {system state destination count rule tapes}

theorem transfer_lines_ok_iff {lines : List String} :
    transferLines system state destination count rule tapes = .ok lines ↔
      ∃ sender receiver, HoldsSetups system state destination sender receiver ∧
        ∃ executions, executionsFrom (runOne sender receiver rule) tapes count 0 = .ok executions ∧
          lines = (blocksFrom 0 executions).flatten := by
  constructor
  · intro printed
    unfold transferLines at printed
    split at printed
    · cases printed
    case h_2 sender senderLoaded =>
      split at printed
      · cases printed
      case h_2 receiver receiverLoaded =>
        split_ifs at printed with same
        cases collected : executionsFrom (runOne sender receiver rule) tapes count 0 with
        | error fault =>
            rw [collected] at printed
            cases printed
        | ok executions =>
            rw [collected] at printed
            cases printed
            exact ⟨sender, receiver, ⟨FileSystem.load_ok_iff.mp senderLoaded,
              FileSystem.load_ok_iff.mp receiverLoaded, same⟩, executions, collected, rfl⟩
  · rintro ⟨sender, receiver, holds, executions, collected, rfl⟩
    rw [transferLines, FileSystem.load_ok_iff.mpr holds.sender_held]
    dsimp only
    rw [FileSystem.load_ok_iff.mpr holds.receiver_held]
    dsimp only
    rw [if_pos holds.same_key, collected]
    rfl

theorem transfer_exit_iff :
    (Call.perform system ⟨destination, .transfer count rule, tapes⟩ state).1.exit = 0 ↔
      ∃ sender receiver, HoldsSetups system state destination sender receiver ∧
        ∀ index < count, ∃ execution, runOne sender receiver rule (tapes index) = .ok execution := by
  have each : ∀ sender receiver,
      (∀ index < count, ∃ execution, runOne sender receiver rule (tapes index) = .ok execution) ↔
        ∃ executions, executionsFrom (runOne sender receiver rule) tapes count 0 =
          .ok executions := by
    intro sender receiver
    simp only [executions_from_succeeds_iff, Nat.zero_add]
  rw [perform_transfer, exit_of_lines_iff]
  simp only [transfer_lines_ok_iff, each]
  constructor
  · rintro ⟨_, sender, receiver, holds, executions, collected, _⟩
    exact ⟨sender, receiver, holds, executions, collected⟩
  · rintro ⟨sender, receiver, holds, executions, collected⟩
    exact ⟨_, sender, receiver, holds, executions, collected, rfl⟩

end Transfers

/-- The lines of an execution on a tape. The pads are those of the execution, the pad received is the
one that the choice names, and a choice that was asked for is the one made. -/
def ShowsExecution [KeyedHash] (sender : SenderSetup) (receiver : ReceiverSetup)
    (rule : ChoiceRule) (tape : Tape) (index : Nat) (block : List String) : Prop :=
  let nonce := (tape.octets nonceBytes).1
  let choice := (drawChoice rule tape).1
  let rest := (drawChoice rule tape).2
  ∃ received rand0 rand1 : Pad,
    block = ["Execution " ++ toString index ++ ":",
      "  nonce: " ++ Hex.encodeString nonce.bytes,
      "  choice: " ++ (if choice then "1" else "0"),
      "  received: " ++ Hex.encodeString received.bytes,
      "  rand0: " ++ Hex.encodeString rand0.bytes,
      "  rand1: " ++ Hex.encodeString rand1.bytes] ∧
    received = (if choice then rand1 else rand0) ∧
    (∀ requested, rule = .fixed requested → choice = requested) ∧
    (execute nonce.bytes sender receiver choice rest).result = .ok (⟨rand0, rand1⟩, received)

theorem shows_execution [KeyedHash] {sender : SenderSetup} {receiver : ReceiverSetup}
    {rule : ChoiceRule} {tape : Tape} {execution : Execution}
    (ran : runOne sender receiver rule tape = .ok execution) (index : Nat) :
    ShowsExecution sender receiver rule tape index (execution.lines index) := by
  obtain ⟨nonce, choice, result, chosen⟩ := run_one_ok_iff.mp ran
  rw [nonce, choice] at result
  refine ⟨execution.received, execution.pads.rand0, execution.pads.rand1, ?_, ?_, ?_, result⟩
  · rw [Execution.lines, nonce, choice]
  · rw [chosen, choice]
    cases (drawChoice rule tape).1 <;> rfl
  · rintro requested rfl
    rfl

structure TransferLaw [KeyedHash] (system : FileSystem State) (state : State)
    (destination : String) (count : Nat) (rule : ChoiceRule) (tapes : Nat → Tape)
    (report : Report) (after : State) : Prop where
  files_unchanged : after = state
  succeeds_iff : report.exit = 0 ↔ ∃ sender receiver,
    HoldsSetups system state destination sender receiver ∧
      ∀ index < count, ∃ execution, runOne sender receiver rule (tapes index) = .ok execution
  prints_all : report.exit = 0 → ∃ sender receiver,
    HoldsSetups system state destination sender receiver ∧
      ∃ blocks : List (List String), blocks.length = count ∧ report.output = blocks.flatten ∧
        ∀ index block, blocks[index]? = some block →
          ShowsExecution sender receiver rule (tapes index) index block
  prints_nothing : report.exit ≠ 0 → report.exit = 1 ∧ report.output = []

/-- A transfer prints all of its executions in order, each with the pad of its choice, or fails and
prints none of them. It succeeds just if both files hold setups of one key and no execution fails,
and leaves the files as they are. -/
theorem transfer_all_or_nothing [KeyedHash] (system : FileSystem State) (state : State)
    (destination : String) (count : Nat) (rule : ChoiceRule) (tapes : Nat → Tape) :
    let result := Call.perform system ⟨destination, .transfer count rule, tapes⟩ state
    TransferLaw system state destination count rule tapes result.1 result.2 := by
  intro result
  have performed : result =
      (.ofLines (transferLines system state destination count rule tapes), state) :=
    perform_transfer system state destination count rule tapes
  constructor
  case files_unchanged => rw [performed]
  case succeeds_iff => exact transfer_exit_iff
  case prints_all =>
    intro succeeded
    rw [performed] at succeeded ⊢
    obtain ⟨lines, printed⟩ := exit_of_lines_iff.mp succeeded
    obtain ⟨sender, receiver, holds, executions, collected, rfl⟩ :=
      transfer_lines_ok_iff.mp printed
    obtain ⟨length, each⟩ := executions_from_ok_iff.mp collected
    refine ⟨sender, receiver, holds, blocksFrom 0 executions, ?_, ?_, ?_⟩
    · rw [blocksFrom, List.length_mapIdx, length]
    · rw [printed]
      rfl
    · intro index block found
      rw [blocksFrom, List.getElem?_mapIdx, Option.map_eq_some_iff] at found
      obtain ⟨execution, executed, rfl⟩ := found
      have ran := each index execution executed
      rw [Nat.zero_add] at ran ⊢
      exact shows_execution ran index
  case prints_nothing =>
    intro failed
    rw [performed] at failed ⊢
    cases printed : transferLines system state destination count rule tapes with
    | ok lines => exact absurd (exit_of_lines_iff.mpr ⟨lines, printed⟩) failed
    | error fault => exact ⟨rfl, rfl⟩

end ObliviousTransfer.Command
