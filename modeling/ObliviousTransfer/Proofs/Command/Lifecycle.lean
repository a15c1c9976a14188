import ObliviousTransfer.Proofs.Command.FileTree
import ObliviousTransfer.Proofs.Command.Transfer
import ObliviousTransfer.Proofs.Setup.Normalisation

/-!
From a setup to the transfers that use it, by way of the two files. A setup
with nonzero scalars leaves what any later transfer needs, and no other command
touches it: a transfer then fails only where the identity is sent. A setup with
a zero scalar is refused before anything is written.
-/

namespace ObliviousTransfer.Command

/-- The directory can be made, unless it is there, and the files of a setup can be written. -/
def Usable (destination : String) (tree : FileTree) : Prop :=
  ∃ made, (∀ tapes used,
    (Plan.makeDirectories destination).carryOut .ofTree tapes used tree = (.ok (), made)) ∧
      made.Writable (senderFile destination) ∧ made.Writable (receiverFile destination)

theorem make_existing_directories {destination : String} {tree : FileTree}
    (there : tree.isDirectory destination = true) (tapes : Nat → Tape) (used : Nat) :
    (Plan.makeDirectories destination).carryOut .ofTree tapes used tree = (.ok (), tree) :=
  Plan.carry_out_make_existing
    (congrArg (Plan.applyChange tree) (FileTree.make_existing_directory there)) there tapes used

theorem usable_of_directory {destination : String} {tree : FileTree}
    (there : tree.isDirectory destination = true)
    (sender : tree.Writable (senderFile destination))
    (receiver : tree.Writable (receiverFile destination)) : Usable destination tree :=
  ⟨tree, make_existing_directories there, sender, receiver⟩

theorem setup_files_apart (destination : String) :
    (Path.ofString (senderFile destination)).names.getLast? ≠
      (Path.ofString (receiverFile destination)).names.getLast? := by
  rw [senderFile, receiverFile, Path.join_names destination (by decide) (by decide),
    Path.join_names destination (by decide) (by decide), List.getLast?_concat, List.getLast?_concat]
  decide

theorem agree_eq (context : List Byte) (tape : Tape) :
    let b := tape.scalar.1
    let k := tape.scalar.2.scalar.1
    let created := Setup.createWith b k context
    agree context tape =
      if b ≠ 0 ∧ k ≠ 0 then .ok (created.1, created.2, ⟨b • Point.generator⟩)
      else .error .proofInvalid := by
  intro b k created
  have accepted : (Setup.accept context created.1).value =
      if b ≠ 0 ∧ k ≠ 0 then .ok ⟨b • Point.generator⟩ else .error .proofInvalid :=
    Setup.accept_created b k context
  have result : (Setup.create context tape).result = .ok created :=
    congrArg Outcome.result (Setup.create_eq context tape)
  rw [agree, result]
  simp only [bind, Except.bind, accepted]
  by_cases nonzero : b ≠ 0 ∧ k ≠ 0
  · rw [if_pos nonzero, if_pos nonzero]
  · rw [if_neg nonzero, if_neg nonzero]

def announcement (message : SetupMessage) : List String :=
  ["Setup message: " ++ Hex.encodeString message.encode.bytes,
    "Public Key: " ++ Hex.encodeString message.publicKey.bytes]

/-- The steps of a setup that both sides have agreed on. -/
def recordPlan (destination : String) :
    SetupMessage × SenderSetup × ReceiverSetup → Plan Lines
  | (message, sender, receiver) =>
      .writeFile (senderFile destination) (Json.save SenderSetup.format .pretty sender) fun
        | .error fault => .done (.error (.file fault))
        | .ok _ =>
            .writeFile (receiverFile destination) (Json.save ReceiverSetup.format .pretty receiver)
              fun
              | .error fault => .done (.error (.file fault))
              | .ok _ => .done (.ok (announcement message))

theorem carry_out_setup {State : Type} (system : FileSystem State) (tapes : Nat → Tape)
    (used : Nat) (destination context : String) (state : State) :
    let making := (Plan.makeDirectories destination).carryOut system tapes used state
    (setupPlan destination context).carryOut system tapes used state =
      match making.1 with
      | .error fault => (.error (.file fault), making.2)
      | .ok _ =>
          match agree (utf8 context) (tapes used) with
          | .error failure => (.error (.protocol failure), making.2)
          | .ok agreed =>
              (recordPlan destination agreed).carryOut system tapes (used + 1) making.2 := by
  intro making
  rw [setupPlan, Plan.carry_out_and_then (Plan.directories_only_make destination)]
  change Plan.carryOut system tapes used _ making.2 = _
  cases making.1 with
  | error fault => rfl
  | ok made =>
      dsimp only
      rw [Plan.carryOut]
      cases agree (utf8 context) (tapes used) with
      | error failure => rfl
      | ok agreed => rfl

theorem carry_out_record (tapes : Nat → Tape) (used : Nat) {destination : String}
    {tree : FileTree} (senderWritable : tree.Writable (senderFile destination))
    (receiverWritable : tree.Writable (receiverFile destination)) (message : SetupMessage)
    (sender : SenderSetup) (receiver : ReceiverSetup) :
    ∃ after, (recordPlan destination (message, sender, receiver)).carryOut .ofTree tapes used tree =
        (.ok (announcement message), after) ∧
      after.read (senderFile destination) = .ok (Json.save SenderSetup.format .pretty sender) ∧
      after.read (receiverFile destination) =
        .ok (Json.save ReceiverSetup.format .pretty receiver) := by
  obtain ⟨first, firstWritten⟩ := senderWritable (Json.save SenderSetup.format .pretty sender)
  obtain ⟨second, secondWritten⟩ := receiverWritable.after_write firstWritten
    (Json.save ReceiverSetup.format .pretty receiver)
  -- The second file has another name, so it does not take the place of the first.
  refine ⟨second, ?_, ?_, FileTree.read_written secondWritten⟩
  · simp only [recordPlan, Plan.carryOut, FileSystem.ofTree, firstWritten, secondWritten,
      Plan.applyChange]
  · exact FileTree.read_other secondWritten (FileTree.read_written firstWritten)
      (setup_files_apart destination)

theorem created_restored {b : Scalar} (secret : b ≠ 0) (k : Scalar) (context : List Byte) :
    let created := (Setup.createWith b k context).2
    Json.load SenderSetup.format (Json.save SenderSetup.format .pretty created) = .ok created ∧
      Json.load ReceiverSetup.format
        (Json.save ReceiverSetup.format .pretty ⟨created.publicKey⟩) = .ok ⟨created.publicKey⟩ := by
  intro created
  have consistent : created.Consistent := ⟨rfl, rfl⟩
  obtain ⟨publicKey, secretKey⟩ := not_or.mp (mt consistent.holds_identity_iff.mp secret)
  exact ⟨Json.load_save (SenderSetup.format_restores publicKey secretKey) .pretty,
    Json.load_save (ReceiverSetup.format_restores publicKey) .pretty⟩

section Setups

variable [KeyedHash] {destination : String} (context : String) {tapes : Nat → Tape}
  {tree : FileTree}

theorem perform_setup_refused
    (zero : ¬((tapes 0).scalar.1 ≠ 0 ∧ (tapes 0).scalar.2.scalar.1 ≠ 0)) :
    let result := Call.perform .ofTree ⟨destination, .setup context, tapes⟩ tree
    result.1.exit = 1 ∧ result.1.output = [] ∧ tree.SameFiles result.2 := by
  intro result
  have files := (Plan.make_directories_untouched tapes 0 destination tree).same_files
  have refused : agree (utf8 context) (tapes 0) = .error .proofInvalid :=
    (agree_eq _ _).trans (if_neg zero)
  -- Directories are made before the two sides talk, and stay.
  have performed : ∃ fault, result = (.ofLines (.error fault),
      ((Plan.makeDirectories destination).carryOut .ofTree tapes 0 tree).2) := by
    have carried := carry_out_setup .ofTree tapes 0 destination context tree
    rw [refused] at carried
    dsimp only [result]
    rw [Call.perform_eq, plan, carried]
    cases ((Plan.makeDirectories destination).carryOut .ofTree tapes 0 tree).1 with
    | error fault => exact ⟨_, rfl⟩
    | ok made => exact ⟨_, rfl⟩
  obtain ⟨fault, performed⟩ := performed
  rw [performed]
  exact ⟨rfl, rfl, files⟩

theorem perform_setup_accepted (usable : Usable destination tree)
    (secret : (tapes 0).scalar.1 ≠ 0) (proofNonce : (tapes 0).scalar.2.scalar.1 ≠ 0) :
    let created := Setup.createWith (tapes 0).scalar.1 (tapes 0).scalar.2.scalar.1 (utf8 context)
    ∃ after, Call.perform .ofTree ⟨destination, .setup context, tapes⟩ tree =
        (.ofLines (.ok (announcement created.1)), after) ∧
      HoldsSetups .ofTree after destination created.2 ⟨created.2.publicKey⟩ := by
  intro created
  obtain ⟨made, making, senderWritable, receiverWritable⟩ := usable
  have agreed : agree (utf8 context) (tapes 0) =
      .ok (created.1, created.2, ⟨created.2.publicKey⟩) :=
    (agree_eq _ _).trans (if_pos ⟨secret, proofNonce⟩)
  obtain ⟨after, recorded, senderRead, receiverRead⟩ := carry_out_record tapes 1 senderWritable
    receiverWritable created.1 created.2 ⟨created.2.publicKey⟩
  have carried := carry_out_setup .ofTree tapes 0 destination context tree
  rw [making, agreed] at carried
  obtain ⟨senderLoaded, receiverLoaded⟩ := created_restored secret
    (tapes 0).scalar.2.scalar.1 (utf8 context)
  refine ⟨after, ?_, ⟨_, senderRead, senderLoaded⟩, ⟨_, receiverRead, receiverLoaded⟩, rfl⟩
  rw [Call.perform_eq, plan, carried]
  dsimp only
  rw [recorded]

end Setups

section Transfers

variable [KeyedHash] {State : Type} {system : FileSystem State}

def Call.KeepsFiles (call : Call) : Prop := ∀ context, call.command ≠ .setup context

theorem perform_keeps {call : Call} (keeps : call.KeepsFiles) (state : State) :
    (call.perform system state).2 = state := by
  obtain ⟨destination, command, tapes⟩ := call
  cases command with
  | setup context => exact absurd rfl (keeps context)
  | transfer count rule =>
      exact congrArg Prod.snd (perform_transfer system state destination count rule tapes)
  | compact signature => rfl
  | verify publicKey hash signature => rfl

def performAll (system : FileSystem State) : List Call → State → State
  | [], state => state
  | call :: rest, state => performAll system rest (call.perform system state).2

theorem perform_all_keeps {calls : List Call} (keep : ∀ call ∈ calls, call.KeepsFiles)
    (state : State) : performAll system calls state = state := by
  induction calls with
  | nil => rfl
  | cons call rest ih =>
      obtain ⟨first, others⟩ := List.forall_mem_cons.mp keep
      rw [performAll, perform_keeps first, ih others]

/-- The point that the receiver sends in an execution on a tape. -/
def sentOn (publicKey : Point) (rule : ChoiceRule) (tape : Tape) : Point :=
  let (choice, rest) := drawChoice rule tape
  rest.scalar.1 • Point.generator + if choice then publicKey else 0

theorem run_one_succeeds_iff {setup : SenderSetup} (consistent : setup.Consistent)
    (rule : ChoiceRule) (tape : Tape) :
    (∃ execution, runOne setup ⟨setup.publicKey⟩ rule tape = .ok execution) ↔
      sentOn setup.publicKey rule tape ≠ .identity := by
  constructor
  · rintro ⟨execution, ran⟩ identity
    obtain ⟨-, choice, result, -⟩ := run_one_ok_iff.mp ran
    rw [choice] at result
    cases result.symm.trans ((execute_result_under _ _ _ _ _).trans (if_pos identity))
  · intro notIdentity
    let nonce := (tape.octets nonceBytes).1
    let choice := (drawChoice rule tape).1
    let a := (drawChoice rule tape).2.scalar.1
    let values := exchange (KeyedHash.hash nonce) setup setup.publicKey choice a
    have agrees : values.Agrees (KeyedHash.hash nonce) choice :=
      Exchange.agrees_of_consistent _ choice consistent a
    refine ⟨⟨nonce, choice, values.received, values.pads⟩, run_one_ok_iff.mpr ⟨rfl, rfl, ?_,
      Exchange.received_eq_pick _ choice consistent a⟩⟩
    exact (execute_result_under nonce setup ⟨setup.publicKey⟩ choice _).trans
      ((if_neg notIdentity).trans (if_pos agrees))

/-- With a saved setup that is consistent, a transfer fails only where the identity is sent. -/
theorem transfer_of_consistent {state : State} {destination : String} {setup : SenderSetup}
    (consistent : setup.Consistent)
    (holds : HoldsSetups system state destination setup ⟨setup.publicKey⟩)
    (count : Nat) (rule : ChoiceRule) (tapes : Nat → Tape) :
    (Call.perform system ⟨destination, .transfer count rule, tapes⟩ state).1.exit = 0 ↔
      ∀ index < count, sentOn setup.publicKey rule (tapes index) ≠ .identity := by
  have each : (∀ index < count, sentOn setup.publicKey rule (tapes index) ≠ .identity) ↔
      ∀ index < count, ∃ execution,
        runOne setup ⟨setup.publicKey⟩ rule (tapes index) = .ok execution :=
    forall₂_congr fun index _ => (run_one_succeeds_iff consistent rule (tapes index)).symm
  rw [transfer_exit_iff, each]
  constructor
  · rintro ⟨sender, receiver, found, succeed⟩
    cases found.sender_held.unique holds.sender_held
    cases found.receiver_held.unique holds.receiver_held
    exact succeed
  · exact fun succeed => ⟨setup, ⟨setup.publicKey⟩, holds, succeed⟩

end Transfers

/-- Two texts as a setup prints them: those of a message that the receiver accepts, and of the key
that it is then left with. -/
structure Announces (context : List Byte) (publicKey : Point) (sent key : String) : Prop where
  accepted : ∃ bytes message, Hex.decode sent.toList = .ok bytes ∧ bytes.length = 98 ∧
    SetupMessage.decode bytes = .ok message ∧
      (Setup.accept context message).value = .ok ⟨publicKey⟩
  published : ∃ bytes, Hex.decode key.toList = .ok bytes ∧ decodePoint bytes = .ok publicKey

theorem announces_created {b k : Scalar} (secret : b ≠ 0) (proofNonce : k ≠ 0)
    (context : List Byte) :
    let message := (Setup.createWith b k context).1
    Announces context (b • Point.generator) (Hex.encodeString message.encode.bytes)
      (Hex.encodeString message.publicKey.bytes) := by
  intro message
  have printed : ∀ bytes, Hex.decode (Hex.encodeString bytes).toList = .ok bytes := by
    intro bytes
    rw [Hex.encodeString, String.toList_ofList, Hex.decode_encode]
  constructor
  case accepted =>
    have decoded : ∀ message : SetupMessage,
        SetupMessage.decode message.encode.bytes = .ok message :=
      SetupMessage.wire_lossless.decode_encode
    refine ⟨message.encode.bytes, message, printed _, message.encode.length_eq, decoded _, ?_⟩
    exact (Setup.accept_created b k context).trans (if_pos ⟨secret, proofNonce⟩)
  case published =>
    exact ⟨message.publicKey.bytes, printed _,
      decode_point_encode (mt Point.generator_smul_eq_identity_iff.mp secret)⟩

/-- A setup of a secret `b` that has been announced and saved, so that transfers can use it. -/
structure Established [KeyedHash] (destination context : String) (b : Scalar) (report : Report)
    (after : FileTree) : Prop where
  succeeds : report.exit = 0
  announces : ∃ sent key,
    report.output = ["Setup message: " ++ sent, "Public Key: " ++ key] ∧
      Announces (utf8 context) (b • Point.generator) sent key
  saves : HoldsSetups .ofTree after destination
    ⟨b, b • Point.generator, b • (b • Point.generator)⟩ ⟨b • Point.generator⟩
  serves : ∀ calls : List Call, (∀ call ∈ calls, call.KeepsFiles) → ∀ count rule tapes,
    let transfer : Call := ⟨destination, .transfer count rule, tapes⟩
    (transfer.perform .ofTree (performAll .ofTree calls after)).1.exit = 0 ↔
      ∀ index < count, sentOn (b • Point.generator) rule (tapes index) ≠ .identity

structure SetupLaw [KeyedHash] (destination context : String) (b k : Scalar) (before : FileTree)
    (report : Report) (after : FileTree) : Prop where
  accepted : b ≠ 0 → k ≠ 0 → Established destination context b report after
  refused : b = 0 ∨ k = 0 → report.exit = 1 ∧ report.output = [] ∧ before.SameFiles after

/-- A setup with nonzero scalars announces a message that the receiver accepts and saves what both
sides keep, which serves every transfer that comes after other calls than setups and never sends
the identity. A setup with a zero scalar is refused, and no file is written. -/
theorem setup_serves_transfers [KeyedHash] {destination : String} {tree : FileTree}
    (usable : Usable destination tree) (context : String) (tapes : Nat → Tape) :
    let result := Call.perform .ofTree ⟨destination, .setup context, tapes⟩ tree
    SetupLaw destination context (tapes 0).scalar.1 (tapes 0).scalar.2.scalar.1 tree
      result.1 result.2 := by
  intro result
  constructor
  case refused =>
    intro zero
    apply perform_setup_refused context
    rwa [not_and_or, not_not, not_not]
  case accepted =>
    intro secret proofNonce
    let created :=
      Setup.createWith (tapes 0).scalar.1 (tapes 0).scalar.2.scalar.1 (utf8 context)
    obtain ⟨after, performed, holds⟩ := perform_setup_accepted context usable secret proofNonce
    have same : result.2 = after := congrArg Prod.snd performed
    have report := congrArg Prod.fst performed
    rw [same]
    constructor
    case succeeds => exact congrArg Report.exit report
    case announces =>
      exact ⟨_, _, congrArg Report.output report,
        announces_created secret proofNonce (utf8 context)⟩
    case saves => exact holds
    case serves =>
      intro calls keep count rule supply transfer
      rw [perform_all_keeps keep]
      have consistent : created.2.Consistent := ⟨rfl, rfl⟩
      exact transfer_of_consistent consistent holds count rule supply

theorem scalar_of_empty_ne_zero {tape : Tape} (empty : tape.bytes = []) : tape.scalar.1 ≠ 0 := by
  have ones : bigEndianValue (tape.next scalarBytes) ≠ 0 := by
    rw [Tape.next, empty]
    decide
  rw [Tape.scalar_of_in_range (Tape.next_scalar_in_range empty)]
  exact fun zero => ones (congrArg Fin.val zero)

theorem scalars_of_empty_ne_zero :
    (Tape.ofBytes []).scalar.1 ≠ 0 ∧ (Tape.ofBytes []).scalar.2.scalar.1 ≠ 0 := by
  have rest : (Tape.ofBytes []).scalar.2.bytes = [] := by
    rw [Tape.scalar_of_in_range (Tape.next_scalar_in_range rfl)]
    rfl
  exact ⟨scalar_of_empty_ne_zero rfl, scalar_of_empty_ne_zero rest⟩

theorem sent_on_empty_ne_identity (publicKey : Point) :
    sentOn publicKey (.fixed false) (.ofBytes []) ≠ .identity := by
  have a : ((Tape.ofBytes []).advance nonceBytes).scalar.1 ≠ 0 := scalar_of_empty_ne_zero rfl
  change _ • Point.generator + (0 : Point) ≠ _
  rw [add_zero]
  exact mt Point.generator_smul_eq_identity_iff.mp a

/-- A setup in a directory that is empty, with the scalars of a tape without bytes, a call that
fails, and a transfer. -/
theorem setup_serves_transfers_in_data :
    let tree : FileTree := ⟨[(["data"], .directory)], []⟩
    let tapes : Nat → Tape := fun _ => .ofBytes []
    let setup : Call := ⟨"./data", .setup "rot-party", tapes⟩
    let compact : Call := ⟨"./data", .compact "", tapes⟩
    let transfer : Call := ⟨"./data", .transfer 2 (.fixed false), tapes⟩
    let result := setup.perform .ofTree tree
    Usable "./data" tree ∧ result.1.exit = 0 ∧ compact.KeepsFiles ∧
      (transfer.perform .ofTree (performAll .ofTree [compact] result.2)).1.exit = 0 := by
  intro tree tapes setup compact transfer result
  have names : (Path.ofString "./data").names = [".", "data"] := by
    rw [Path.of_string_names]
    decide
  have takes : ∀ file ∈ ["sender_setup.json", "receiver_setup.json"],
      tree.Writable (Path.join "./data" file) := by
    intro file member
    refine FileTree.writable_iff.mpr ⟨["data", file], FileTree.target_some_iff.mpr ?_, ?_⟩
    · have last : file ≠ "" ∧ '/' ∉ file.toList := by
        revert file
        decide
      rw [Path.join_names "./data" last.1 last.2, names, List.getLast?_concat,
        List.dropLast_concat]
      refine ⟨?_, file, ["data"], rfl, ?_, ?_, ?_, rfl⟩ <;> revert file <;> decide
    · revert file
      decide
  have usable : Usable "./data" tree := by
    apply usable_of_directory
    · have parsed : Path.ofString "./data" = ⟨false, [".", "data"]⟩ :=
        congrArg (Path.mk false) names
      rw [FileTree.isDirectory, parsed]
      decide
    · exact takes _ (by decide)
    · exact takes _ (by decide)
  have established := (setup_serves_transfers usable "rot-party" tapes).accepted
    scalars_of_empty_ne_zero.1 scalars_of_empty_ne_zero.2
  have keeps : compact.KeepsFiles := fun _ => Command.noConfusion
  refine ⟨usable, established.succeeds, keeps, ?_⟩
  exact (established.serves [compact] (by simpa using keeps) 2 (.fixed false) tapes).mpr
    fun _ _ => sent_on_empty_ne_identity _

end ObliviousTransfer.Command
