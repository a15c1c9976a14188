import ObliviousTransfer.Proofs.Command.Lifecycle
import ObliviousTransfer.Proofs.Command.Storage

/-!
Setups that fail, on any file system that behaves as is documented. Up to the
sender's file a setup that stops leaves all files alone, and every transfer still
does what it did. A file that is written is emptied first, and the two files are
written one after the other: where the writing of either fails, the pair that was
there may be lost, and the directory then serves no transfer before both files are
whole again.
-/

namespace ObliviousTransfer.Command

abbrev senderText (setup : SenderSetup) : String := Json.save SenderSetup.format .pretty setup

abbrev receiverText (setup : SenderSetup) : String :=
  Json.save ReceiverSetup.format .pretty ⟨setup.publicKey⟩

inductive SetupStep where
  | directory
  | scalars
  | senderFile
  | receiverFile
  deriving DecidableEq

section Stopping

variable {State : Type} (system : FileSystem State) (destination context : String)
  (tapes : Nat → Tape) (before : State)

/-- What the system answers when the directory is made, and what is then there. -/
def makingOf : Except FileFault Unit × State :=
  (Plan.makeDirectories destination).carryOut system tapes 0 before

def drawnSetup : SetupMessage × SenderSetup :=
  Setup.createWith (tapes 0).scalar.1 (tapes 0).scalar.2.scalar.1 (utf8 context)

/-- How a setup comes to stop at a step, and what it leaves. -/
inductive StopsAt : SetupStep → State → Prop
  | directory {fault : FileFault} {after : State}
      (making : makingOf system destination tapes before = (.error fault, after)) :
      StopsAt .directory after
  | scalars {after : State}
      (making : makingOf system destination tapes before = (.ok (), after))
      (zero : ¬((tapes 0).scalar.1 ≠ 0 ∧ (tapes 0).scalar.2.scalar.1 ≠ 0)) :
      StopsAt .scalars after
  | senderFile {made after : State} {fault : FileFault}
      (making : makingOf system destination tapes before = (.ok (), made))
      (nonzero : (tapes 0).scalar.1 ≠ 0 ∧ (tapes 0).scalar.2.scalar.1 ≠ 0)
      (refused : system.writeFile made (senderFile destination)
        (senderText (drawnSetup context tapes).2) = (.error fault, after)) :
      StopsAt .senderFile after
  | receiverFile {made first after : State} {fault : FileFault}
      (making : makingOf system destination tapes before = (.ok (), made))
      (nonzero : (tapes 0).scalar.1 ≠ 0 ∧ (tapes 0).scalar.2.scalar.1 ≠ 0)
      (written : system.writeFile made (senderFile destination)
        (senderText (drawnSetup context tapes).2) = (.ok (), first))
      (refused : system.writeFile first (receiverFile destination)
        (receiverText (drawnSetup context tapes).2) = (.error fault, after)) :
      StopsAt .receiverFile after

variable {system destination context tapes before}

theorem carry_out_write {path text : String} {outcome : Except FileFault Unit} {after : State}
    (wrote : system.writeFile before path text = (outcome, after)) (used : Nat)
    {Value : Type} (next : Except FileFault Unit → Plan Value) :
    (Plan.writeFile path text next).carryOut system tapes used before =
      (next outcome).carryOut system tapes used after := by
  rw [Plan.carryOut, wrote]

section Performing

variable [KeyedHash] {made after : State} {fault : FileFault}

theorem perform_setup_unmade
    (making : makingOf system destination tapes before = (.error fault, after)) :
    Call.perform system ⟨destination, .setup context, tapes⟩ before =
      (.ofLines (.error (.file fault)), after) := by
  have carried := carry_out_setup system tapes 0 destination context before
  unfold makingOf at making
  rw [making] at carried
  rw [Call.perform_eq, plan, carried]

theorem perform_setup_zero
    (making : makingOf system destination tapes before = (.ok (), after))
    (zero : ¬((tapes 0).scalar.1 ≠ 0 ∧ (tapes 0).scalar.2.scalar.1 ≠ 0)) :
    Call.perform system ⟨destination, .setup context, tapes⟩ before =
      (.ofLines (.error (.protocol .proofInvalid)), after) := by
  have carried := carry_out_setup system tapes 0 destination context before
  unfold makingOf at making
  rw [making, agree_eq, if_neg zero] at carried
  rw [Call.perform_eq, plan, carried]

theorem perform_setup_agreed
    (making : makingOf system destination tapes before = (.ok (), made))
    (nonzero : (tapes 0).scalar.1 ≠ 0 ∧ (tapes 0).scalar.2.scalar.1 ≠ 0) :
    let drawn := drawnSetup context tapes
    let recorded := (recordPlan destination (drawn.1, drawn.2, ⟨drawn.2.publicKey⟩)).carryOut
      system tapes 1 made
    Call.perform system ⟨destination, .setup context, tapes⟩ before =
      (.ofLines recorded.1, recorded.2) := by
  intro drawn recorded
  have carried := carry_out_setup system tapes 0 destination context before
  unfold makingOf at making
  rw [making, agree_eq, if_pos nonzero] at carried
  rw [Call.perform_eq, plan, carried]
  rfl

theorem perform_of_stops {step : SetupStep}
    (stops : StopsAt system destination context tapes before step after) :
    ∃ fault, Call.perform system ⟨destination, .setup context, tapes⟩ before =
      (.ofLines (.error fault), after) := by
  cases stops with
  | directory making => exact ⟨_, perform_setup_unmade making⟩
  | scalars making zero => exact ⟨_, perform_setup_zero making zero⟩
  | senderFile making nonzero refused =>
      rw [perform_setup_agreed making nonzero, recordPlan, carry_out_write refused]
      exact ⟨_, rfl⟩
  | receiverFile making nonzero written refused =>
      rw [perform_setup_agreed making nonzero, recordPlan, carry_out_write written]
      dsimp only
      rw [carry_out_write refused]
      exact ⟨_, rfl⟩

theorem exit_of_stops {step : SetupStep}
    (stops : StopsAt system destination context tapes before step after) :
    (Call.perform system ⟨destination, .setup context, tapes⟩ before).1.exit = 1 := by
  obtain ⟨fault, performed⟩ := perform_of_stops stops
  rw [performed]
  rfl

theorem left_of_stops {step : SetupStep}
    (stops : StopsAt system destination context tapes before step after) :
    (Call.perform system ⟨destination, .setup context, tapes⟩ before).2 = after := by
  obtain ⟨fault, performed⟩ := perform_of_stops stops
  exact congrArg Prod.snd performed

theorem stops_at_end {step : SetupStep}
    (stops : StopsAt system destination context tapes before step after) :
    StopsAt system destination context tapes before step
      (Call.perform system ⟨destination, .setup context, tapes⟩ before).2 :=
  (left_of_stops stops).symm ▸ stops

theorem setup_stops
    (failed : (Call.perform system ⟨destination, .setup context, tapes⟩ before).1.exit = 1) :
    ∃ step, StopsAt system destination context tapes before step
      (Call.perform system ⟨destination, .setup context, tapes⟩ before).2 := by
  rcases making : makingOf system destination tapes before with ⟨fault | _, made⟩
  · exact ⟨_, stops_at_end (.directory making)⟩
  by_cases nonzero : (tapes 0).scalar.1 ≠ 0 ∧ (tapes 0).scalar.2.scalar.1 ≠ 0
  · rcases sender : system.writeFile made (senderFile destination)
      (senderText (drawnSetup context tapes).2) with ⟨fault | _, first⟩
    · exact ⟨_, stops_at_end (.senderFile making nonzero sender)⟩
    · rcases receiver : system.writeFile first (receiverFile destination)
        (receiverText (drawnSetup context tapes).2) with ⟨fault | _, last⟩
      · exact ⟨_, stops_at_end (.receiverFile making nonzero sender receiver)⟩
      · rw [perform_setup_agreed making nonzero, recordPlan, carry_out_write sender] at failed
        dsimp only at failed
        rw [carry_out_write receiver] at failed
        change (0 : UInt32) = 1 at failed
        exact absurd failed (by decide)
  · exact ⟨_, stops_at_end (.scalars making nonzero)⟩

end Performing
end Stopping

def setupFiles (destination : String) : List String :=
  [senderFile destination, receiverFile destination]

section Transfers

variable {State : Type} {system : FileSystem State} {before after : State} {destination : String}
  (kept : ∀ path ∈ setupFiles destination, ∀ text, system.readFile before path = .ok text →
    system.readFile after path = .ok text)

include kept

theorem holds_kept {Value : Type} {format : Json.Format FieldFault Value} {path : String}
    (used : path ∈ setupFiles destination) {value : Value}
    (holds : system.Holds format before path value) : system.Holds format after path value := by
  obtain ⟨text, read, loaded⟩ := holds
  exact ⟨text, kept path used text read, loaded⟩

theorem transfer_kept [KeyedHash] {count : Nat} {rule : ChoiceRule} {tapes : Nat → Tape}
    (succeeded :
      (Call.perform system ⟨destination, .transfer count rule, tapes⟩ before).1.exit = 0) :
    (Call.perform system ⟨destination, .transfer count rule, tapes⟩ after).1 =
      (Call.perform system ⟨destination, .transfer count rule, tapes⟩ before).1 := by
  rw [perform_transfer] at succeeded ⊢
  rw [perform_transfer]
  obtain ⟨lines, printed⟩ := exit_of_lines_iff.mp succeeded
  obtain ⟨sender, receiver, holds, rest⟩ := transfer_lines_ok_iff.mp printed
  have holdsAfter : HoldsSetups system after destination sender receiver :=
    ⟨holds_kept kept List.mem_cons_self holds.sender_held,
      holds_kept kept (List.mem_cons_of_mem _ List.mem_cons_self) holds.receiver_held,
      holds.same_key⟩
  have again : transferLines system after destination count rule tapes = .ok lines :=
    transfer_lines_ok_iff.mpr ⟨sender, receiver, holdsAfter, rest⟩
  rw [printed, again]

end Transfers

section Refusing

variable [KeyedHash] {State : Type} {system : FileSystem State} {state : State}
  {destination : String} (count : Nat) (rule : ChoiceRule) (tapes : Nat → Tape)

theorem transfer_of_unrelated {sender : SenderSetup} {receiver : ReceiverSetup}
    (senderHeld : system.Holds SenderSetup.format state (senderFile destination) sender)
    (receiverHeld : system.Holds ReceiverSetup.format state (receiverFile destination) receiver)
    (unrelated : sender.publicKey ≠ receiver.publicKey) :
    (Call.perform system ⟨destination, .transfer count rule, tapes⟩ state).1.exit ≠ 0 := by
  intro succeeded
  obtain ⟨_, _, holds, -⟩ := transfer_exit_iff.mp succeeded
  cases holds.sender_held.unique senderHeld
  cases holds.receiver_held.unique receiverHeld
  exact unrelated holds.same_key

theorem transfer_of_emptied {path : String} (used : path ∈ setupFiles destination)
    (emptied : system.readFile state path = .ok "") :
    (Call.perform system ⟨destination, .transfer count rule, tapes⟩ state).1.exit ≠ 0 := by
  intro succeeded
  obtain ⟨_, _, holds, -⟩ := transfer_exit_iff.mp succeeded
  rcases List.mem_pair.mp used with rfl | rfl
  · obtain ⟨text, read, loaded⟩ := holds.sender_held
    cases emptied.symm.trans read
    exact nomatch loaded
  · obtain ⟨text, read, loaded⟩ := holds.receiver_held
    cases emptied.symm.trans read
    exact nomatch loaded

end Refusing

section Outcomes

variable [KeyedHash] {State File : Type} (system : FileSystem State) (storage : Storage State File)

/-- All files but some are as they were, and a transfer that succeeded and uses none of those does
the same again. -/
structure Spares (changed : File → Prop) (before after : State) : Prop where
  same : storage.SameBut changed before after
  serves : ∀ destination count rule tapes,
    (∀ path ∈ setupFiles destination, ∀ file,
      storage.leadsTo before path = some file → ¬changed file) →
    let transfer : Call := ⟨destination, .transfer count rule, tapes⟩
    (transfer.perform system before).1.exit = 0 →
      (transfer.perform system after).1 = (transfer.perform system before).1

/-- A path leads to a file with some front part of a text, perhaps all of it. -/
structure HoldsFront (state : State) (path text : String) (file : File) (part : ByteArray) :
    Prop where
  leads : storage.leadsTo state path = some file
  bytes : storage.bytes state file = some part
  front : ∃ rest, part ++ rest = text.toUTF8

/-- The sender's file has been written over, as far as it went. The directory serves a transfer only
if it went to the end and the receiver's file already has the new key. -/
structure SpoilsSender (destination : String) (setup : SenderSetup) (before after : State)
    (file : File) (part : ByteArray) : Prop where
  holds_front : HoldsFront storage after (senderFile destination) (senderText setup) file part
  spares : Spares system storage (· = file) before after
  serves_new_key : ∀ count rule tapes,
    (Call.perform system ⟨destination, .transfer count rule, tapes⟩ after).1.exit = 0 →
      part = (senderText setup).toUTF8 ∧
        system.Holds ReceiverSetup.format after (receiverFile destination) ⟨setup.publicKey⟩

/-- The receiver's file has been written over too, as far as it went. By a link it may be the
sender's file. -/
structure SpoilsReceiver (destination : String) (setup : SenderSetup) (before after : State)
    (file other : File) (part : ByteArray) : Prop where
  sender_leads : storage.leadsTo after (senderFile destination) = some file
  sender_replaced : other ≠ file → storage.bytes after file = some (senderText setup).toUTF8
  holds_front : HoldsFront storage after (receiverFile destination) (receiverText setup) other part
  spares : Spares system storage (fun changed => changed = file ∨ changed = other) before after
  serves_new_key : ∀ count rule tapes,
    (Call.perform system ⟨destination, .transfer count rule, tapes⟩ after).1.exit = 0 →
      part = (receiverText setup).toUTF8 ∧
        system.Holds ReceiverSetup.format after (receiverFile destination) ⟨setup.publicKey⟩

/-- What a setup that fails leaves, step by step. -/
structure FailureLaw (destination context : String) (tapes : Nat → Tape) (before : State)
    (report : Report) (after : State) : Prop where
  fails_iff : report.exit = 1 ↔
    ∃ step, StopsAt system destination context tapes before step after
  early : ∀ step, step = .directory ∨ step = .scalars →
    StopsAt system destination context tapes before step after →
      Spares system storage (fun _ => False) before after
  sender_file : StopsAt system destination context tapes before .senderFile after →
    Spares system storage (fun _ => False) before after ∨ ∃ file part,
      SpoilsSender system storage destination (drawnSetup context tapes).2 before after file part
  receiver_file : StopsAt system destination context tapes before .receiverFile after →
    let setup := (drawnSetup context tapes).2
    ∃ file, SpoilsSender system storage destination setup before after file
        (senderText setup).toUTF8 ∨
      ∃ other part, SpoilsReceiver system storage destination setup before after file other part

end Outcomes

section FailedSetups

variable {State File : Type} {system : FileSystem State} {storage : Storage State File}
  {destination context : String} {tapes : Nat → Tape} {before after : State}
  (follows : system.Follows storage)

theorem holds_front_of_overwritten {path text : String} {file : File} {part : ByteArray}
    {made : State} (overwritten : storage.Overwritten path file part made after)
    (front : ∃ rest, part ++ rest = text.toUTF8) :
    HoldsFront storage after path text file part :=
  ⟨overwritten.same.leads _ _ overwritten.led, overwritten.written, front⟩

include follows

theorem making_same {outcome : Except FileFault Unit}
    (making : makingOf system destination tapes before = (outcome, after)) :
    storage.Same before after := by
  have same := follows.make_directories tapes 0 destination before
  unfold makingOf at making
  rwa [making] at same

theorem whole_of_holds {Value : Type} {format : Json.Format FieldFault Value} {path : String}
    {value read : Value} {file : File} {part : ByteArray} (readsWhole : format.ReadsWhole value)
    (loads : Json.load format (Json.save format .pretty value) = .ok value)
    (holdsFront : HoldsFront storage after path (Json.save format .pretty value) file part)
    (holds : system.Holds format after path read) :
    part = (Json.save format .pretty value).toUTF8 ∧ read = value := by
  obtain ⟨text, readText, loaded⟩ := holds
  obtain ⟨other, led, -, bytes⟩ := (follows.read_iff _ _ _).mp readText
  cases holdsFront.leads.symm.trans led
  cases holdsFront.bytes.symm.trans bytes
  obtain ⟨rest, split⟩ := holdsFront.front
  have front : text.toList <+: (Json.save format .pretty value).toList := by
    apply List.isPrefix_of_utf8Encode_append_eq_utf8Encode rest
    rw [String.utf8Encode_toList, String.utf8Encode_toList]
    exact split
  cases Json.whole_of_load readsWhole front loaded
  cases loads.symm.trans loaded
  exact ⟨rfl, rfl⟩

variable [KeyedHash]

theorem spares_of_same {changed : File → Prop} (same : storage.SameBut changed before after) :
    Spares system storage changed before after where
  same := same
  serves _ _ _ _ spared := transfer_kept fun path used _ read =>
    follows.read_again same read (spared path used)

theorem sender_serves_new_key {file : File} {part : ByteArray} (secret : (tapes 0).scalar.1 ≠ 0)
    (holdsFront : HoldsFront storage after (senderFile destination)
      (senderText (drawnSetup context tapes).2) file part)
    {count : Nat} {rule : ChoiceRule} {supply : Nat → Tape}
    (succeeded :
      (Call.perform system ⟨destination, .transfer count rule, supply⟩ after).1.exit = 0) :
    part = (senderText (drawnSetup context tapes).2).toUTF8 ∧
      system.Holds ReceiverSetup.format after (receiverFile destination)
        ⟨(drawnSetup context tapes).2.publicKey⟩ := by
  obtain ⟨sender, receiver, holds, -⟩ := transfer_exit_iff.mp succeeded
  have loads := (created_restored secret (tapes 0).scalar.2.scalar.1 (utf8 context)).1
  obtain ⟨whole, rfl⟩ := whole_of_holds follows (SenderSetup.format_reads_whole _) loads holdsFront
    holds.sender_held
  have sameKey : receiver = ⟨(drawnSetup context tapes).2.publicKey⟩ :=
    ReceiverSetup.ext holds.same_key.symm
  exact ⟨whole, sameKey ▸ holds.receiver_held⟩

theorem receiver_serves_new_key {file : File} {part : ByteArray} (secret : (tapes 0).scalar.1 ≠ 0)
    (holdsFront : HoldsFront storage after (receiverFile destination)
      (receiverText (drawnSetup context tapes).2) file part)
    {count : Nat} {rule : ChoiceRule} {supply : Nat → Tape}
    (succeeded :
      (Call.perform system ⟨destination, .transfer count rule, supply⟩ after).1.exit = 0) :
    part = (receiverText (drawnSetup context tapes).2).toUTF8 ∧
      system.Holds ReceiverSetup.format after (receiverFile destination)
        ⟨(drawnSetup context tapes).2.publicKey⟩ := by
  obtain ⟨sender, receiver, holds, -⟩ := transfer_exit_iff.mp succeeded
  have loads := (created_restored secret (tapes 0).scalar.2.scalar.1 (utf8 context)).2
  obtain ⟨whole, rfl⟩ := whole_of_holds follows (ReceiverSetup.format_reads_whole _) loads
    holdsFront holds.receiver_held
  exact ⟨whole, holds.receiver_held⟩

theorem spoils_sender {made : State} {file : File} {part : ByteArray}
    (secret : (tapes 0).scalar.1 ≠ 0) (making : storage.Same before made)
    (overwritten : storage.Overwritten (senderFile destination) file part made after)
    (front : ∃ rest, part ++ rest = (senderText (drawnSetup context tapes).2).toUTF8) :
    SpoilsSender system storage destination (drawnSetup context tapes).2 before after file
      part := by
  have holdsFront := holds_front_of_overwritten overwritten front
  constructor
  case holds_front => exact holdsFront
  case spares => exact spares_of_same follows (making.then overwritten.same)
  case serves_new_key =>
    intro count rule supply succeeded
    exact sender_serves_new_key follows secret holdsFront succeeded

theorem spoils_receiver {made first : State} {file other : File} {part : ByteArray}
    (secret : (tapes 0).scalar.1 ≠ 0) (making : storage.Same before made)
    (written : storage.Overwritten (senderFile destination) file
      (senderText (drawnSetup context tapes).2).toUTF8 made first)
    (overwritten : storage.Overwritten (receiverFile destination) other part first after)
    (front : ∃ rest, part ++ rest = (receiverText (drawnSetup context tapes).2).toUTF8) :
    SpoilsReceiver system storage destination (drawnSetup context tapes).2 before after file other
      part := by
  have holdsFront := holds_front_of_overwritten overwritten front
  constructor
  case sender_leads => exact overwritten.same.leads _ _ (written.same.leads _ _ written.led)
  case sender_replaced =>
    intro apart
    rw [overwritten.same.bytes file apart.symm]
    exact written.written
  case holds_front => exact holdsFront
  case spares =>
    exact spares_of_same follows (making.then (written.same.trans overwritten.same))
  case serves_new_key =>
    intro count rule supply succeeded
    exact receiver_serves_new_key follows secret holdsFront succeeded

end FailedSetups

def savedPair (setup : SenderSetup) : FileTree where
  entries := [(["data"], .directory),
    (["data", "sender_setup.json"], .file (senderText setup)),
    (["data", "receiver_setup.json"], .file (receiverText setup))]
  workingPlace := []

def Disk.failingAt (path : String) (ruling : Ruling) : Disk :=
  ⟨id, fun _ other => if other = path then ruling else .granted⟩

def noRoom : FileFault := .refused "No space left on device (os error 28)"

def noRight : FileFault := .refused "Permission denied (os error 13)"

/-- A disk on which one file can be emptied and not written. -/
def Disk.full (path : String) : Disk := .failingAt path (.brokenOff 0 noRoom)

/-- A disk on which one file cannot be opened for writing. -/
def Disk.locked (path : String) : Disk := .failingAt path (.refused noRight)

section Writing

variable {path other text : String} {tree changed : FileTree}

theorem Disk.write_other {ruling : Ruling} (apart : other ≠ path)
    (written : tree.write other text = .ok changed) :
    (failingAt path ruling).system.writeFile tree other text = (.ok (), changed) := by
  have granted : (failingAt path ruling).ruling tree other = .granted := if_neg apart
  exact write_granted granted written

theorem Disk.write_full (emptied : tree.write path "" = .ok changed) (text : String) :
    (full path).system.writeFile tree path text = (.error noRoom, changed) := by
  have brokenOff : (full path).ruling tree path = .brokenOff 0 noRoom := if_pos rfl
  exact write_broken_off brokenOff emptied

theorem Disk.write_locked (tree : FileTree) (path text : String) :
    (locked path).system.writeFile tree path text = (.error noRight, tree) := by
  have refused : (locked path).ruling tree path = .refused noRight := if_pos rfl
  exact write_refused refused text

end Writing

theorem data_path : Path.ofString "data" = ⟨false, ["data"]⟩ := by
  have names : (Path.ofString "data").names = ["data"] := by
    rw [Path.of_string_names]
    decide
  exact congrArg (Path.mk false) names

section SavedPair

variable (old : SenderSetup)

theorem saved_pair_target {file : String}
    (member : file ∈ ["sender_setup.json", "receiver_setup.json"]) :
    (savedPair old).target (Path.join "data" file) = .ok (some ["data", file]) := by
  have plain : file ≠ "" ∧ '/' ∉ file.toList := by
    revert file
    decide
  rw [FileTree.target_some_iff, Path.join_names "data" plain.1 plain.2, data_path,
    List.getLast?_concat, List.dropLast_concat]
  have relative : (Path.ofString (Path.join "data" file)).fromRoot = false := by
    revert file
    decide
  rw [FileTree.startOf, relative]
  refine ⟨?_, file, ["data"], rfl, rfl, ?_, ?_, rfl⟩ <;> revert file <;> decide

theorem saved_pair_directory : (savedPair old).isDirectory "data" = true := by
  rw [FileTree.isDirectory, data_path]
  rfl

theorem saved_pair_dotted_directory :
    (savedPair old).isDirectory (Path.underDots 2036 "data") = true := by
  have relative : (Path.ofString "data").fromRoot = false := by rw [data_path]
  have named : (Path.ofString "data").names ≠ [] := by
    rw [data_path]
    decide
  rw [FileTree.is_directory_under_dots relative named (by decide)]
  exact saved_pair_directory old

theorem saved_pair_dotted_sender :
    (savedPair old).target (senderFile (Path.underDots 2036 "data")) =
      .ok (some ["data", "sender_setup.json"]) := by
  have named : (Path.ofString (Path.join "data" "sender_setup.json")).names ≠ [] := by
    rw [Path.join_names "data" (by decide) (by decide)]
    exact List.concat_ne_nil _ _
  rw [senderFile, Path.join_under_dots (by decide),
    FileTree.target_under_dots (by decide) named (by decide)]
  exact saved_pair_target old (by decide)

theorem saved_pair_write (text : String) :
    (savedPair old).write (senderFile "data") text =
      .ok ((savedPair old).put ["data", "sender_setup.json"] (.file text)) := by
  have notDirectory : FileTree.entry? (savedPair old) ["data", "sender_setup.json"] ≠
      some .directory := fun wrong => nomatch wrong
  exact FileTree.write_ok_iff.mpr ⟨_, saved_pair_target old (by decide), notDirectory, rfl⟩

theorem overwritten_pair_write (text later : String) :
    let after := (savedPair old).put ["data", "sender_setup.json"] (.file text)
    after.write (receiverFile "data") later =
      .ok (after.put ["data", "receiver_setup.json"] (.file later)) := by
  intro after
  have senderOpen : FileTree.entry? (savedPair old) ["data", "sender_setup.json"] ≠
      some .directory := fun wrong => nomatch wrong
  have keeps : (savedPair old).KeepsDirectories after := FileTree.put_file_keeps senderOpen text
  have apart : ["data", "receiver_setup.json"] ≠ ["data", "sender_setup.json"] := by decide
  have receiverOpen : after.entry? ["data", "receiver_setup.json"] ≠ some .directory := by
    rw [FileTree.entry_put_other apart]
    exact fun wrong => nomatch wrong
  exact FileTree.write_ok_iff.mpr
    ⟨_, keeps.target (saved_pair_target old (by decide)), receiverOpen, rfl⟩

section Stopping

variable {path : String} {ruling : Ruling} {context : String} {tapes : Nat → Tape}

theorem saved_pair_making (other : "data" ≠ path) (tapes : Nat → Tape) :
    makingOf (Disk.failingAt path ruling).system "data" tapes (savedPair old) =
      (.ok (), savedPair old) := by
  have there := saved_pair_directory old
  have refused : (Disk.failingAt path ruling).system.makeDirectory (savedPair old) "data" =
      (.error .alreadyExists, savedPair old) := by
    dsimp only [Disk.system, Disk.makeDirectory, Disk.failingAt]
    rw [if_neg other]
    exact congrArg (Plan.applyChange _) (FileTree.make_existing_directory there)
  exact Plan.carry_out_make_existing refused there tapes 0

variable (nonzero : (tapes 0).scalar.1 ≠ 0 ∧ (tapes 0).scalar.2.scalar.1 ≠ 0)

include nonzero

theorem saved_pair_stops_sender_full :
    StopsAt (Disk.full (senderFile "data")).system "data" context tapes (savedPair old) .senderFile
      ((savedPair old).put ["data", "sender_setup.json"] (.file "")) :=
  .senderFile (saved_pair_making old (by decide) tapes) nonzero
    (Disk.write_full (saved_pair_write old "") _)

/-- Nothing is in the way of the sender's file. -/
theorem saved_pair_stops_receiver {fault : FileFault} {after : FileTree}
    (refused : (Disk.failingAt (receiverFile "data") ruling).system.writeFile
      ((savedPair old).put ["data", "sender_setup.json"]
        (.file (senderText (drawnSetup context tapes).2)))
      (receiverFile "data") (receiverText (drawnSetup context tapes).2) = (.error fault, after)) :
    StopsAt (Disk.failingAt (receiverFile "data") ruling).system "data" context tapes
      (savedPair old) .receiverFile after :=
  .receiverFile (saved_pair_making old (by decide) tapes) nonzero
    (Disk.write_other (by decide) (saved_pair_write old _)) refused

theorem saved_pair_stops_receiver_locked :
    StopsAt (Disk.locked (receiverFile "data")).system "data" context tapes (savedPair old)
      .receiverFile ((savedPair old).put ["data", "sender_setup.json"]
        (.file (senderText (drawnSetup context tapes).2))) :=
  saved_pair_stops_receiver old nonzero (Disk.write_locked _ _ _)

theorem saved_pair_stops_receiver_full :
    StopsAt (Disk.full (receiverFile "data")).system "data" context tapes (savedPair old)
      .receiverFile (((savedPair old).put ["data", "sender_setup.json"]
        (.file (senderText (drawnSetup context tapes).2))).put ["data", "receiver_setup.json"]
          (.file "")) :=
  saved_pair_stops_receiver old nonzero (Disk.write_full (overwritten_pair_write old _ "") _)

end Stopping

theorem saved_pair_reads :
    (savedPair old).read (senderFile "data") = .ok (senderText old) ∧
      (savedPair old).read (receiverFile "data") = .ok (receiverText old) :=
  ⟨FileTree.read_ok_iff.mpr ⟨_, saved_pair_target old (by decide), rfl⟩,
    FileTree.read_ok_iff.mpr ⟨_, saved_pair_target old (by decide), rfl⟩⟩

theorem overwritten_pair_reads (text : String) :
    let after := (savedPair old).put ["data", "sender_setup.json"] (.file text)
    after.read (senderFile "data") = .ok text ∧
      after.read (receiverFile "data") = .ok (receiverText old) := by
  have written := saved_pair_write old text
  have apart := (setup_files_apart "data").symm
  exact ⟨FileTree.read_written written,
    FileTree.read_other written (saved_pair_reads old).2 apart⟩

theorem torn_pair [KeyedHash] {file : String} (used : file ∈ setupFiles "data") (context : String)
    {tapes : Nat → Tape}
    (nonzero : (tapes 0).scalar.1 ≠ 0 ∧ (tapes 0).scalar.2.scalar.1 ≠ 0) :
    let torn := Call.perform (Disk.full file).system ⟨"data", .setup context, tapes⟩ (savedPair old)
    torn.1.exit = 1 ∧ torn.2.read file = .ok "" := by
  intro torn
  rcases List.mem_pair.mp used with rfl | rfl
  · have stops : StopsAt _ "data" context tapes (savedPair old) .senderFile _ :=
      saved_pair_stops_sender_full old nonzero
    refine ⟨exit_of_stops stops, ?_⟩
    rw [left_of_stops stops]
    exact (overwritten_pair_reads old "").1
  · have stops : StopsAt _ "data" context tapes (savedPair old) .receiverFile _ :=
      saved_pair_stops_receiver_full old nonzero
    refine ⟨exit_of_stops stops, ?_⟩
    rw [left_of_stops stops]
    exact FileTree.read_written (overwritten_pair_write old _ "")

variable {system : FileSystem FileTree} (reads : system.readFile = FileTree.read) {b : Scalar}
  (secret : b ≠ 0)

include reads secret

theorem saved_pair_holds :
    let setup : SenderSetup := ⟨b, b • Point.generator, b • (b • Point.generator)⟩
    HoldsSetups system (savedPair setup) "data" setup ⟨setup.publicKey⟩ := by
  intro setup
  have loaded := created_restored secret 0 []
  have read := saved_pair_reads setup
  rw [← reads] at read
  exact ⟨⟨_, read.1, loaded.1⟩, ⟨_, read.2, loaded.2⟩, rfl⟩

theorem saved_pair_serves [KeyedHash] :
    let setup : SenderSetup := ⟨b, b • Point.generator, b • (b • Point.generator)⟩
    let transfer : Call := ⟨"data", .transfer 1 (.fixed false), fun _ => .ofBytes []⟩
    (transfer.perform system (savedPair setup)).1.exit = 0 := by
  intro setup transfer
  have consistent : setup.Consistent := ⟨rfl, rfl⟩
  refine (transfer_of_consistent consistent (saved_pair_holds reads secret) 1 _ _).mpr ?_
  exact fun _ _ => sent_on_empty_ne_identity _

theorem overwritten_pair_receiver (text : String) :
    let setup : SenderSetup := ⟨b, b • Point.generator, b • (b • Point.generator)⟩
    system.Holds ReceiverSetup.format
      ((savedPair setup).put ["data", "sender_setup.json"] (.file text)) (receiverFile "data")
      ⟨setup.publicKey⟩ := by
  intro setup
  have read := (overwritten_pair_reads setup text).2
  rw [← reads] at read
  exact ⟨_, read, (created_restored secret 0 []).2⟩

end SavedPair

theorem perform_setup_too_long [KeyedHash] {destination context : String} {tapes : Nat → Tape}
    {before : FileTree} {place : List String} (directory : before.isDirectory destination = true)
    (nonzero : (tapes 0).scalar.1 ≠ 0 ∧ (tapes 0).scalar.2.scalar.1 ≠ 0)
    (reached : before.target (senderFile destination) = .ok (some place))
    (notDirectory : before.entry? place ≠ some .directory)
    (long : FileTree.longestPath < (receiverFile destination).utf8ByteSize) :
    ∃ fault, Call.perform .ofTree ⟨destination, .setup context, tapes⟩ before =
      (.ofLines (.error fault),
        before.put place (.file (senderText (drawnSetup context tapes).2))) := by
  let setup := (drawnSetup context tapes).2
  have written : before.write (senderFile destination) (senderText setup) =
      .ok (before.put place (.file (senderText setup))) :=
    FileTree.write_ok_iff.mpr ⟨_, reached, notDirectory, rfl⟩
  have refused : (before.put place (.file (senderText setup))).write (receiverFile destination)
      (receiverText setup) = .error .nameTooLong := FileTree.write_too_long long _
  exact perform_of_stops (.receiverFile (make_existing_directories directory _ 0) nonzero
    (congrArg (Plan.applyChange before) written) (congrArg (Plan.applyChange _) refused))

theorem receiver_path_too_long :
    FileTree.longestPath < (receiverFile (Path.underDots 2036 "data")).utf8ByteSize := by
  rw [receiverFile, Path.join_under_dots (by decide), Path.under_dots_size]
  decide

theorem empty_tape_unrelated (context : String) :
    (drawnSetup context fun _ => .ofBytes []).2.publicKey ≠ (1 : Scalar) • Point.generator := by
  intro same
  have secrets : (Tape.ofBytes []).scalar.1 = 1 := Point.generator_smul_inj.mp same
  rw [Tape.scalar_of_in_range (Tape.next_scalar_in_range rfl)] at secrets
  revert secrets
  decide

/-- A setup fails just if it stops at one of its steps, and the step says what can be left. -/
theorem failed_setup_law [KeyedHash] {State File : Type} {system : FileSystem State}
    {storage : Storage State File} (follows : system.Follows storage)
    (destination context : String) (tapes : Nat → Tape) (before : State) :
    let result := Call.perform system ⟨destination, .setup context, tapes⟩ before
    FailureLaw system storage destination context tapes before result.1 result.2 := by
  intro result
  constructor
  case fails_iff =>
    refine ⟨setup_stops, ?_⟩
    rintro ⟨step, stopped⟩
    exact exit_of_stops stopped
  case early =>
    intro step early stopped
    apply spares_of_same follows
    cases stopped with
    | directory making => exact making_same follows making
    | scalars making zero => exact making_same follows making
    | senderFile => rcases early with wrong | wrong <;> cases wrong
    | receiverFile => rcases early with wrong | wrong <;> cases wrong
  case sender_file =>
    intro stopped
    cases stopped with
    | senderFile making nonzero refused =>
        have made := making_same follows making
        rcases follows.write_failed _ _ _ _ _ refused with same | ⟨file, part, front, overwritten⟩
        · exact Or.inl (spares_of_same follows (made.then same))
        · exact Or.inr ⟨file, part, spoils_sender follows nonzero.1 made overwritten front⟩
  case receiver_file =>
    intro stopped setup
    cases stopped with
    | receiverFile making nonzero written refused =>
        have made := making_same follows making
        obtain ⟨file, replaced⟩ := follows.write_done _ _ _ _ written
        refine ⟨file, ?_⟩
        rcases follows.write_failed _ _ _ _ _ refused with same | ⟨other, part, front, overwritten⟩
        · exact Or.inl (spoils_sender follows nonzero.1 made (replaced.keep same)
            ⟨_, ByteArray.append_empty⟩)
        · exact Or.inr ⟨other, part,
            spoils_receiver follows nonzero.1 made replaced overwritten front⟩

/-- A pair that serves a transfer, and three setups. With zeros on the tape it serves on; on a disk
that is full the sender's file is spoilt; with the receiver's file locked the two no longer fit. -/
theorem failed_setup_law_in_data :
    let old : SenderSetup :=
      ⟨1, (1 : Scalar) • Point.generator, (1 : Scalar) • ((1 : Scalar) • Point.generator)⟩
    let before := savedPair old
    let full := Disk.full (senderFile "data")
    let locked := Disk.locked (receiverFile "data")
    let zeros : Call := ⟨"data", .setup "rot-party", fun _ => .ofBytes (List.replicate 64 0)⟩
    let setup : Call := ⟨"data", .setup "rot-party", fun _ => .ofBytes []⟩
    let drawn := (drawnSetup "rot-party" setup.tapes).2
    let transfer : Call := ⟨"data", .transfer 1 (.fixed false), fun _ => .ofBytes []⟩
    let unmade := zeros.perform full.system before
    let torn := setup.perform full.system before
    let halved := setup.perform locked.system before
    ((transfer.perform full.system before).1.exit = 0 ∧ unmade.1.exit = 1 ∧
        (transfer.perform full.system unmade.2).1 = (transfer.perform full.system before).1) ∧
      (torn.1.exit = 1 ∧
        (∃ file part,
          SpoilsSender full.system full.storage "data" drawn before torn.2 file part) ∧
        (transfer.perform full.system torn.2).1.exit ≠ 0) ∧
      ((transfer.perform locked.system before).1.exit = 0 ∧ halved.1.exit = 1 ∧
        (transfer.perform locked.system halved.2).1.exit ≠ 0) := by
  intro old before full locked zeros setup drawn transfer unmade torn halved
  have one : (1 : Scalar) ≠ 0 := by decide
  have nonzero : (setup.tapes 0).scalar.1 ≠ 0 ∧ (setup.tapes 0).scalar.2.scalar.1 ≠ 0 :=
    scalars_of_empty_ne_zero
  have served : (transfer.perform full.system before).1.exit = 0 := saved_pair_serves rfl one
  refine ⟨⟨served, ?unmade⟩, ?torn, saved_pair_serves rfl one, ?halved⟩
  case unmade =>
    have zero : ¬((zeros.tapes 0).scalar.1 ≠ 0 ∧ (zeros.tapes 0).scalar.2.scalar.1 ≠ 0) := by
      intro nonzero
      apply nonzero.1
      rw [Tape.scalar_of_in_range (by decide)]
      decide
    have stops : StopsAt full.system "data" "rot-party" zeros.tapes before .scalars before :=
      .scalars (saved_pair_making old (by decide) _) zero
    have law := failed_setup_law full.follows "data" "rot-party" zeros.tapes before
    have kept := law.early .scalars (Or.inr rfl) (stops_at_end stops)
    exact ⟨law.fails_iff.mpr ⟨_, stops_at_end stops⟩,
      kept.serves _ _ _ _ (fun _ _ _ _ => id) served⟩
  case torn =>
    have law := failed_setup_law full.follows "data" "rot-party" setup.tapes before
    have stops : StopsAt full.system "data" "rot-party" setup.tapes before .senderFile torn.2 :=
      stops_at_end (saved_pair_stops_sender_full old nonzero)
    have refused : (transfer.perform full.system torn.2).1.exit ≠ 0 :=
      transfer_of_emptied 1 (.fixed false) _ List.mem_cons_self
        (torn_pair old List.mem_cons_self "rot-party" nonzero).2
    refine ⟨law.fails_iff.mpr ⟨_, stops⟩, ?_, refused⟩
    rcases law.sender_file stops with kept | spoilt
    · have again := kept.serves "data" 1 (.fixed false) transfer.tapes (fun _ _ _ _ => id) served
      exact absurd ((congrArg Report.exit again).trans served) refused
    · exact spoilt
  case halved =>
    have law := failed_setup_law locked.follows "data" "rot-party" setup.tapes before
    have stops : StopsAt locked.system "data" "rot-party" setup.tapes before .receiverFile _ :=
      saved_pair_stops_receiver_locked old nonzero
    have oldKey : locked.system.Holds ReceiverSetup.format halved.2 (receiverFile "data")
        ⟨old.publicKey⟩ :=
      (left_of_stops stops).symm ▸ overwritten_pair_receiver rfl one (senderText drawn)
    have notNew : ¬locked.system.Holds ReceiverSetup.format halved.2 (receiverFile "data")
        ⟨drawn.publicKey⟩ := fun newKey =>
      empty_tape_unrelated "rot-party" (congrArg ReceiverSetup.publicKey (newKey.unique oldKey))
    refine ⟨law.fails_iff.mpr ⟨_, stops_at_end stops⟩, fun succeeded => notNew ?_⟩
    obtain ⟨file, spoilt | ⟨other, part, spoilt⟩⟩ := law.receiver_file (stops_at_end stops)
    · exact (spoilt.serves_new_key 1 (.fixed false) _ succeeded).2
    · exact (spoilt.serves_new_key 1 (.fixed false) _ succeeded).2

/-- A pair that served a transfer is lost in two ways. Behind enough single dots the sender's path
is just short enough to be written, and the receiver's is too long. On a disk that is full either
file can be the one that is emptied, with nothing written to it. -/
theorem failed_setup_loses_pair :
    let old : SenderSetup :=
      ⟨1, (1 : Scalar) • Point.generator, (1 : Scalar) • ((1 : Scalar) • Point.generator)⟩
    let before := savedPair old
    let tapes : Nat → Tape := fun _ => .ofBytes []
    let transfer : Call := ⟨"data", .transfer 1 (.fixed false), tapes⟩
    let long := Call.perform .ofTree ⟨Path.underDots 2036 "data", .setup "rot-party", tapes⟩ before
    let torn (file : String) :=
      Call.perform (Disk.full file).system ⟨"data", .setup "rot-party", tapes⟩ before
    (long.1.exit = 1 ∧
        long.2.read (senderFile "data") ≠ before.read (senderFile "data") ∧
        (transfer.perform .ofTree before).1.exit = 0 ∧
        (transfer.perform .ofTree long.2).1.exit ≠ 0) ∧
      ∀ file ∈ setupFiles "data", (torn file).1.exit = 1 ∧
        (torn file).2.read file ≠ before.read file ∧
        (transfer.perform (Disk.full file).system before).1.exit = 0 ∧
        (transfer.perform (Disk.full file).system (torn file).2).1.exit ≠ 0 := by
  intro old before tapes transfer long torn
  have one : (1 : Scalar) ≠ 0 := by decide
  have nonzero : (tapes 0).scalar.1 ≠ 0 ∧ (tapes 0).scalar.2.scalar.1 ≠ 0 :=
    scalars_of_empty_ne_zero
  have holds : HoldsSetups .ofTree before "data" old ⟨old.publicKey⟩ := saved_pair_holds rfl one
  let drawn := (drawnSetup "rot-party" tapes).2
  have unrelated : drawn.publicKey ≠ old.publicKey := empty_tape_unrelated "rot-party"
  constructor
  · -- The sender's text goes to its place, and the receiver's nowhere.
    let left := before.put ["data", "sender_setup.json"] (.file (senderText drawn))
    obtain ⟨fault, same⟩ : ∃ fault, long = (.ofLines (.error fault), left) :=
      perform_setup_too_long (saved_pair_dotted_directory old) nonzero
        (saved_pair_dotted_sender old) (fun wrong => nomatch wrong) receiver_path_too_long
    have senderHeld : FileSystem.ofTree.Holds SenderSetup.format left (senderFile "data") drawn :=
      ⟨_, (overwritten_pair_reads old _).1,
        (created_restored nonzero.1 (tapes 0).scalar.2.scalar.1 (utf8 "rot-party")).1⟩
    have receiverHeld : FileSystem.ofTree.Holds ReceiverSetup.format left (receiverFile "data")
        ⟨old.publicKey⟩ := overwritten_pair_receiver rfl one _
    rw [same]
    refine ⟨rfl, ?_, saved_pair_serves rfl one,
      transfer_of_unrelated 1 (.fixed false) _ senderHeld receiverHeld unrelated⟩
    intro unchanged
    obtain ⟨kept, read, loaded⟩ := senderHeld
    have stillHeld : FileSystem.ofTree.Holds SenderSetup.format before (senderFile "data") drawn :=
      ⟨kept, unchanged.symm.trans read, loaded⟩
    exact unrelated (congrArg SenderSetup.publicKey (stillHeld.unique holds.sender_held))
  · intro file used
    have served : (transfer.perform (Disk.full file).system before).1.exit = 0 :=
      saved_pair_serves rfl one
    obtain ⟨failed, emptied⟩ := torn_pair old used "rot-party" nonzero
    refine ⟨failed, ?_, served, transfer_of_emptied 1 (.fixed false) _ used emptied⟩
    intro unchanged
    exact transfer_of_emptied 1 (.fixed false) _ used (unchanged.symm.trans emptied) served

end ObliviousTransfer.Command
