import ObliviousTransfer.Proofs.Command.FileTree

/-!
File systems as they are documented. A path leads to a file by way of directories
and links, so several paths may lead to one. A file is emptied before it is written:
where the writing fails, it may be left with any front part of its new text. A tree
of files on a disk with links, and with changes that are refused or broken off, is
such a file system.
-/

namespace ObliviousTransfer.Command

/-- What can be told of the files of a system. A path leads to a file whether or not it is there;
one that is there has bytes. -/
structure Storage (State File : Type) where
  leadsTo : State → String → Option File
  bytes : State → File → Option ByteArray
  readable : File → Prop

namespace Storage

variable {State File : Type} (storage : Storage State File)

/-- All files but some are as they were, and every path leads where it led. -/
structure SameBut (changed : File → Prop) (before after : State) : Prop where
  bytes : ∀ file, ¬changed file → storage.bytes after file = storage.bytes before file
  leads : ∀ path file, storage.leadsTo before path = some file →
    storage.leadsTo after path = some file

abbrev Same := storage.SameBut fun _ => False

/-- A path leads to a file that has just these bytes now, and no other file has changed. -/
structure Overwritten (path : String) (file : File) (bytes : ByteArray) (before after : State) :
    Prop where
  led : storage.leadsTo before path = some file
  written : storage.bytes after file = some bytes
  same : storage.SameBut (· = file) before after

variable {storage} {changed later : File → Prop} {before middle after : State}

theorem SameBut.trans (first : storage.SameBut changed before middle)
    (second : storage.SameBut later middle after) :
    storage.SameBut (fun file => changed file ∨ later file) before after where
  bytes file neither :=
    (second.bytes file (neither ∘ Or.inr)).trans (first.bytes file (neither ∘ Or.inl))
  leads path file led := second.leads path file (first.leads path file led)

theorem SameBut.mono (same : storage.SameBut changed before after)
    (more : ∀ file, changed file → later file) : storage.SameBut later before after where
  bytes file unchanged := same.bytes file (unchanged ∘ more file)
  leads := same.leads

theorem Same.then (same : storage.Same before middle)
    (rest : storage.SameBut changed middle after) : storage.SameBut changed before after :=
  (SameBut.trans same rest).mono fun _ => Or.rec False.elim id

theorem Overwritten.keep {path : String} {file : File} {bytes : ByteArray}
    (overwritten : storage.Overwritten path file bytes before middle)
    (same : storage.Same middle after) : storage.Overwritten path file bytes before after where
  led := overwritten.led
  written := (same.bytes file id).trans overwritten.written
  same := (overwritten.same.trans same).mono fun _ => Or.rec id False.elim

end Storage

/-- The documented behaviour of a file system. -/
structure FileSystem.Follows {State File : Type} (system : FileSystem State)
    (storage : Storage State File) : Prop where
  make_directory : ∀ before path, storage.Same before (system.makeDirectory before path).2
  read_iff : ∀ state path text, system.readFile state path = .ok text ↔
    ∃ file, storage.leadsTo state path = some file ∧ storage.readable file ∧
      storage.bytes state file = some text.toUTF8
  write_done : ∀ before path text after, system.writeFile before path text = (.ok (), after) →
    ∃ file, storage.Overwritten path file text.toUTF8 before after
  /-- Either the file could not be opened, or what has been written is a front part of the text. -/
  write_failed : ∀ before path text fault after,
    system.writeFile before path text = (.error fault, after) →
      storage.Same before after ∨
        ∃ file part, (∃ rest, part ++ rest = text.toUTF8) ∧
          storage.Overwritten path file part before after

section Follows

variable {State File : Type} {system : FileSystem State} {storage : Storage State File}
  {before after : State} (follows : system.Follows storage)

include follows

theorem FileSystem.Follows.make_directories (tapes : Nat → Tape) (used : Nat) (path : String)
    (state : State) :
    storage.Same state ((Plan.makeDirectories path).carryOut system tapes used state).2 := by
  apply Plan.carry_out_invariant (Plan.directories_only_make path)
  · exact fun path before same => same.then (follows.make_directory before path)
  · exact ⟨fun _ _ => rfl, fun _ _ led => led⟩

theorem FileSystem.Follows.read_again {changed : File → Prop}
    (same : storage.SameBut changed before after) {path text : String}
    (read : system.readFile before path = .ok text)
    (spared : ∀ file, storage.leadsTo before path = some file → ¬changed file) :
    system.readFile after path = .ok text := by
  obtain ⟨file, led, readable, bytes⟩ := (follows.read_iff _ _ _).mp read
  have kept := (same.bytes file (spared file led)).trans bytes
  exact (follows.read_iff _ _ _).mpr ⟨file, same.leads path file led, readable, kept⟩

end Follows

/-- What a disk says to a change of its tree. A file whose writing is broken off has been emptied,
and has as many characters of its text as could be written. -/
inductive Ruling where
  | granted
  | refused (fault : FileFault)
  | brokenOff (count : Nat) (fault : FileFault)

/-- Links lead from paths to other paths. -/
structure Disk where
  links : String → String
  ruling : FileTree → String → Ruling

namespace Disk

def plain : Disk := ⟨id, fun _ _ => .granted⟩

def makeDirectory (disk : Disk) (tree : FileTree) (path : String) :
    Except FileFault Unit × FileTree :=
  match disk.ruling tree path with
  | .granted => Plan.applyChange tree (tree.makeDirectory (disk.links path))
  | .refused fault => (.error fault, tree)
  | .brokenOff _ fault => (.error fault, tree)

def writeFile (disk : Disk) (tree : FileTree) (path text : String) :
    Except FileFault Unit × FileTree :=
  match disk.ruling tree path with
  | .granted => Plan.applyChange tree (tree.write (disk.links path) text)
  | .refused fault => (.error fault, tree)
  | .brokenOff count fault =>
      let part := String.ofList (text.toList.take count)
      (.error fault, (Plan.applyChange tree (tree.write (disk.links path) part)).2)

def system (disk : Disk) : FileSystem FileTree where
  makeDirectory := disk.makeDirectory
  isDirectory tree path := tree.isDirectory (disk.links path)
  readFile tree path := tree.read (disk.links path)
  writeFile := disk.writeFile

def storage (disk : Disk) : Storage FileTree Place where
  leadsTo tree path := (tree.target (disk.links path)).toOption.join
  bytes tree place :=
    match tree.entry? place with
    | some (.file text) => some text.toUTF8
    | _ => none
  readable _ := True

variable {disk : Disk} {tree changed : FileTree} {path text : String}

theorem leads_to_iff {place : Place} :
    disk.storage.leadsTo tree path = some place ↔
      tree.target (disk.links path) = .ok (some place) := by
  change (tree.target (disk.links path)).toOption.join = _ ↔ _
  cases tree.target (disk.links path) with
  | error fault => exact ⟨fun same => (nomatch same), fun same => nomatch same⟩
  | ok found => exact ⟨congrArg Except.ok, Except.ok.inj⟩

theorem bytes_iff {place : Place} {bytes : ByteArray} :
    disk.storage.bytes tree place = some bytes ↔
      ∃ text, tree.entry? place = some (.file text) ∧ text.toUTF8 = bytes := by
  change (match tree.entry? place with
    | some (.file text) => some text.toUTF8
    | _ => none) = _ ↔ _
  cases tree.entry? place with
  | none => simp
  | some entry => cases entry <;> simp

theorem bytes_text_iff {place : Place} :
    disk.storage.bytes tree place = some text.toUTF8 ↔
      tree.entry? place = some (.file text) := by
  rw [bytes_iff]
  constructor
  · rintro ⟨other, found, same⟩
    rw [found, String.toByteArray_inj.mp same]
  · exact fun found => ⟨text, found, rfl⟩

theorem same_of_untouched (untouched : tree.Untouched changed) :
    disk.storage.Same tree changed where
  bytes place _ := by
    apply Option.ext
    intro bytes
    simp only [bytes_iff, untouched.same_files place]
  leads path place led :=
    leads_to_iff.mpr (untouched.keeps_directories.target (leads_to_iff.mp led))

theorem overwritten_of_write (written : tree.write (disk.links path) text = .ok changed) :
    ∃ place, disk.storage.Overwritten path place text.toUTF8 tree changed := by
  obtain ⟨place, reached, notDirectory, rfl⟩ := FileTree.write_ok_iff.mp written
  have keeps := FileTree.put_file_keeps notDirectory text
  have put : FileTree.entry? (tree.put place (.file text)) place = some (.file text) :=
    FileTree.entry_put_same (FileTree.target_nonempty reached) _
  refine ⟨place, leads_to_iff.mpr reached, bytes_text_iff.mpr put, ?_, ?_⟩
  · intro other different
    apply Option.ext
    intro bytes
    rw [bytes_iff, bytes_iff, FileTree.entry_put_other different]
  · exact fun path place led => leads_to_iff.mpr (keeps.target (leads_to_iff.mp led))

theorem same_refl (tree : FileTree) : disk.storage.Same tree tree :=
  same_of_untouched (.refl tree)

theorem front_of_take (text : String) (count : Nat) :
    ∃ rest, (String.ofList (text.toList.take count)).toUTF8 ++ rest = text.toUTF8 := by
  refine ⟨(String.ofList (text.toList.drop count)).toUTF8, ?_⟩
  change (String.ofList _).toByteArray ++ (String.ofList _).toByteArray = text.toByteArray
  rw [← String.toByteArray_append, ← String.ofList_append, List.take_append_drop,
    String.ofList_toList]

theorem write_granted (granted : disk.ruling tree path = .granted)
    (written : tree.write (disk.links path) text = .ok changed) :
    disk.writeFile tree path text = (.ok (), changed) := by
  rw [writeFile, granted]
  exact congrArg (Plan.applyChange tree) written

theorem write_refused {fault : FileFault} (refused : disk.ruling tree path = .refused fault)
    (text : String) : disk.writeFile tree path text = (.error fault, tree) := by
  rw [writeFile, refused]

theorem write_broken_off {count : Nat} {fault : FileFault}
    (brokenOff : disk.ruling tree path = .brokenOff count fault)
    (written : tree.write (disk.links path) (String.ofList (text.toList.take count)) =
      .ok changed) : disk.writeFile tree path text = (.error fault, changed) := by
  rw [writeFile, brokenOff]
  dsimp only
  rw [written]
  rfl

theorem make_directory_cases (disk : Disk) (tree : FileTree) (path : String) :
    tree.makeDirectory (disk.links path) = .ok (disk.makeDirectory tree path).2 ∨
      (disk.makeDirectory tree path).2 = tree := by
  rw [makeDirectory]
  cases disk.ruling tree path with
  | granted =>
      cases tree.makeDirectory (disk.links path) with
      | error fault => exact Or.inr rfl
      | ok changed => exact Or.inl rfl
  | refused fault => exact Or.inr rfl
  | brokenOff count fault => exact Or.inr rfl

theorem write_file_cases (disk : Disk) (tree : FileTree) (path text : String) :
    (∃ changed, tree.write (disk.links path) text = .ok changed ∧
        disk.writeFile tree path text = (.ok (), changed)) ∨
      ∃ fault after, disk.writeFile tree path text = (.error fault, after) ∧
        (after = tree ∨ ∃ count,
          tree.write (disk.links path) (String.ofList (text.toList.take count)) = .ok after) := by
  cases ruled : disk.ruling tree path with
  | granted =>
      cases wrote : tree.write (disk.links path) text with
      | error fault =>
          refine Or.inr ⟨fault, tree, ?_, Or.inl rfl⟩
          rw [writeFile, ruled]
          exact congrArg (Plan.applyChange tree) wrote
      | ok changed => exact Or.inl ⟨changed, rfl, write_granted ruled wrote⟩
  | refused fault => exact Or.inr ⟨fault, tree, write_refused ruled text, Or.inl rfl⟩
  | brokenOff count fault =>
      cases wrote : tree.write (disk.links path) (String.ofList (text.toList.take count)) with
      | error other =>
          refine Or.inr ⟨fault, tree, ?_, Or.inl rfl⟩
          rw [writeFile, ruled]
          dsimp only
          rw [wrote]
          rfl
      | ok changed =>
          exact Or.inr ⟨fault, changed, write_broken_off ruled wrote, Or.inr ⟨count, wrote⟩⟩

theorem follows (disk : Disk) : disk.system.Follows disk.storage where
  make_directory tree path := by
    rcases disk.make_directory_cases tree path with made | same
    · exact same_of_untouched (FileTree.make_directory_untouched made)
    · change disk.storage.Same tree (disk.makeDirectory tree path).2
      rw [same]
      exact same_refl tree
  read_iff tree path text := by
    simp only [leads_to_iff, bytes_text_iff]
    refine FileTree.read_ok_iff.trans (exists_congr fun place => ?_)
    exact and_congr_right fun _ => (iff_of_eq (true_and _)).symm
  write_done tree path text after written := by
    rcases disk.write_file_cases tree path text with
      ⟨changed, wrote, done⟩ | ⟨fault, other, failed, -⟩
    · cases done.symm.trans written
      exact overwritten_of_write wrote
    · cases failed.symm.trans written
  write_failed tree path text fault after failed := by
    rcases disk.write_file_cases tree path text with
      ⟨changed, -, done⟩ | ⟨other, left, failedSo, unchanged | ⟨count, wrote⟩⟩
    · cases done.symm.trans failed
    · cases failedSo.symm.trans failed
      rw [unchanged]
      exact Or.inl (same_refl tree)
    · cases failedSo.symm.trans failed
      obtain ⟨place, overwritten⟩ := overwritten_of_write wrote
      exact Or.inr ⟨place, _, front_of_take text count, overwritten⟩

end Disk

theorem FileSystem.of_tree_follows : FileSystem.ofTree.Follows Disk.plain.storage :=
  Disk.plain.follows

end ObliviousTransfer.Command
